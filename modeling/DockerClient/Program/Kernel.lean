import DockerClient.Program.Bytes
import DockerClient.Program.Fault
import DockerClient.World.FileTree

/-
**What running programs share**: files, open channels, time and signals.

Programs that run side by side are run one after the other.  So that what they do falls into place,
everything that is written to a stream carries the time of its writing, and who reads from a stream
waits until then.

* `Channel` — an open file, a device, or an end of a stream;
* `Kernel` — the state that programs share;
* `Kernel.place` — where a path leads; `Kernel.open?` — opens a file;
* `Kernel.read`, `Kernel.write` — moves bytes through a channel;
* `Kernel.streamOf` — the reading end of a stream whose writing end has been used.
-/

set_option relaxedAutoImplicit false
set_option autoImplicit false

namespace DockerClient

/-- How a file is opened. -/
inductive Opening where
  | read
  | write
  | create
  | append
  | both
deriving DecidableEq, Repr

/-- A text that was written, when, and aside from which other programs. -/
structure Chunk where
  time : Nat
  task : Nat
  text : Bytes

/-- What bytes come from or go to. -/
inductive Channel where
  | stream (coming : List (Nat × Bytes)) (closes : Nat)
  | sink (written : List Chunk)
  | file (names : List String) (position : Nat) (opening : Opening)
  | folder
  | device (d : Device)

/-- A signal that was sent to a process, and when. -/
structure Sent where
  process : Nat
  signal : Nat
  time : Nat
deriving DecidableEq, Repr

/-- A task that runs aside: when it ends, and the channels that it keeps open until then. -/
structure Aside where
  task : Nat
  finish : Nat
  channels : List Nat

/-- What running programs share: files, channels, the time, how many processes there have been, the
signals on their way, the task that is running, 0 for the main one, and the tasks that run aside with
the times of their ends.  Time is in nanoseconds. -/
structure Kernel where
  tree : FileTree
  channels : Array Channel := #[]
  clock : Nat := 0
  processes : Nat := 4242
  signals : List Sent := []
  task : Nat := 0
  aside : List Aside := []

namespace Kernel

/-! ### Time -/

/-- So late that nobody waits for it. -/
def never : Nat := 1000000000000000000

/-- The kernel when a time has come. -/
def waitUntil (k : Kernel) (time : Nat) : Kernel := { k with clock := max k.clock time }

/-- How long it takes to start a process. -/
def startTime : Nat := 1000000

/-- When the last of the tasks that keep a channel open ends. -/
def closing (k : Kernel) (n : Nat) : Nat :=
  k.aside.foldl (fun time a => if a.channels.contains n then max time a.finish else time) k.clock

/-- The kernel where a task that runs aside ends at once: what it would have written later is not
written. -/
def endTask (k : Kernel) (task : Nat) : Kernel :=
  { k with
    aside := k.aside.map fun a =>
      if a.task = task then { a with finish := min a.finish k.clock } else a
    channels := k.channels.map fun c =>
      match c with
      | .sink written => .sink (written.filter fun w => w.task ≠ task || decide (w.time ≤ k.clock))
      | c => c }

/-- The kernel with a signal sent to a process. -/
def send (k : Kernel) (process signal : Nat) : Kernel :=
  { k with signals := k.signals ++ [⟨process, signal, k.clock⟩] }

/-! ### Places -/

/-- An absolute path for a path that is taken from a directory. -/
def absolute (directory path : Bytes) : Bytes :=
  if path.head? = some '/' then path
  else if directory.getLast? = some '/' then directory ++ path
  else directory ++ '/' :: path

/-- Follows names from a directory with the names `above` it, innermost first, to the names of
what is there; the last name may be absent. -/
def follow (tree : FileTree) (above : List String) : List String → Except SystemFault (List String)
  | [] => .ok above
  | name :: rest =>
      match tree.at? above.reverse with
      | some (.dir entries) =>
          if name = "." then follow tree above rest
          else if name = ".." then follow tree (above.drop 1) rest
          else if FileTree.maxName < name.utf8ByteSize then .error .nameTooLong
          else if (entries.lookup name).isNone ∧ rest ≠ [] then .error .noEntry
          else follow tree (name :: above) rest
      | some _ => .error .notDirectory
      | none => .error .noEntry

/-- Where a path leads: the names of the place, and what is there. -/
def place (k : Kernel) (directory path : Bytes) :
    Except SystemFault (List String × Option FileTree) :=
  let full := (absolute directory path).map fun c => c
  if path.isEmpty then .error .noEntry
  else if path.contains '\x00' then .error .invalid
  else if FileTree.maxPath < path.length then .error .nameTooLong
  else
    let names := ((Text.segments '/' full).filter (· ≠ [])).map Bytes.toText
    match follow k.tree [] names with
    | .error e => .error e
    | .ok above =>
        let node := k.tree.at? above.reverse
        match node, path.getLast? with
        | some (.dir _), _ => .ok (above.reverse, node)
        | some _, some '/' => .error .notDirectory
        | none, some '/' => .error .noEntry
        | _, _ => .ok (above.reverse, node)

/-- What is at a path. -/
def find (k : Kernel) (directory path : Bytes) : Except SystemFault FileTree :=
  match k.place directory path with
  | .ok (_, some node) => .ok node
  | .ok (_, none) => .error .noEntry
  | .error e => .error e

/-- The kernel with something at a place. -/
def put (k : Kernel) (names : List String) (node : FileTree) : Kernel :=
  { k with tree := FileTree.putAt node names k.tree }

/-- The content of the file at a place. -/
def contentAt (k : Kernel) (names : List String) : List UInt8 :=
  match k.tree.at? names with
  | some (.file content _) => content
  | _ => []

/-- The kernel with another content of the file at a place. -/
def setContent (k : Kernel) (names : List String) (content : List UInt8) : Kernel :=
  match k.tree.at? names with
  | some (.file _ executable) => k.put names (.file content executable)
  | _ => k

/-! ### Channels -/

/-- Adds a channel. -/
def addChannel (k : Kernel) (c : Channel) : Nat × Kernel :=
  (k.channels.size, { k with channels := k.channels.push c })

/-- A channel by its number. -/
def channel (k : Kernel) (n : Nat) : Channel := k.channels[n]?.getD (.device .null)

/-- The kernel with a channel changed. -/
def setChannel (k : Kernel) (n : Nat) (c : Channel) : Kernel :=
  { k with channels := k.channels.setIfInBounds n c }

/-- Opens the file at a path. -/
def open? (k : Kernel) (directory path : Bytes) (opening : Opening) :
    Except SystemFault (Nat × Kernel) :=
  match k.place directory path with
  | .error e => .error (if e = .noEntry ∧ path.getLast? = some '/' ∧ opening ≠ .read then
      .isDirectory else e)
  | .ok (names, node) =>
      match node with
      | some (.dir _) =>
          if opening = .read then .ok (k.addChannel .folder) else .error .isDirectory
      | some (.device d) => .ok (k.addChannel (.device d))
      | some .socket => .error .noDevice
      | some (.tool _) =>
          if opening = .read then .ok (k.addChannel (.file names 0 .read)) else .error .denied
      | some (.file _ _) =>
          let k := if opening = .create then k.setContent names [] else k
          .ok (k.addChannel (.file names 0 opening))
      | none =>
          match opening with
          | .read | .write => .error .noEntry
          | _ => .ok ((k.put names (.file [] false)).addChannel (.file names 0 opening))

/-- The bytes that have come at the beginning of a stream: at most so many, and the rest. -/
def take (count : Nat) : List (Nat × Bytes) → Option (Nat × Bytes × List (Nat × Bytes))
  | [] => none
  | (time, text) :: rest =>
      if text.isEmpty then take count rest
      else
        let left := text.drop count
        some (time, text.take count, if left.isEmpty then rest else (time, left) :: rest)

/-- Reads at most so many bytes; none at the end. -/
def read (k : Kernel) (n count : Nat) : Except SystemFault (Bytes × Kernel) :=
  match k.channel n with
  | .stream coming closes =>
      match take count coming with
      | some (time, text, rest) => .ok (text, (k.setChannel n (.stream rest closes)).waitUntil time)
      | none => .ok ([], k.waitUntil closes)
  | .sink _ => .error .badDescriptor
  | .file names position opening =>
      if opening = .read ∨ opening = .both then
        let text := ((k.contentAt names).drop position).take count
        .ok (Bytes.ofRaw text, k.setChannel n (.file names (position + text.length) opening))
      else .error .badDescriptor
  | .folder => .error .isDirectory
  | .device .null => .ok ([], k)
  | .device _ => .ok (List.replicate count '\x00', k)

/-- A content with bytes written over it at a position. -/
def overwrite (content : List UInt8) (position : Nat) (bytes : List UInt8) : List UInt8 :=
  let before := content.take position
  before ++ List.replicate (position - before.length) 0 ++ bytes
    ++ content.drop (position + bytes.length)

/-- Writes bytes. -/
def write (k : Kernel) (n : Nat) (text : Bytes) : Except SystemFault Kernel :=
  if text.isEmpty then .ok k
  else
    match k.channel n with
    | .sink written => .ok (k.setChannel n (.sink (⟨k.clock, k.task, text⟩ :: written)))
    | .stream _ _ => .error .badDescriptor
    | .file names position opening =>
        if opening = .read then .error .badDescriptor
        else
          let content := k.contentAt names
          let position := if opening = .append then content.length else position
          .ok ((k.setContent names (overwrite content position (Bytes.toRaw text))).setChannel n
            (.file names (position + text.length) opening))
    | .folder => .error .badDescriptor
    | .device .full => .error .noSpace
    | .device _ => .ok k

/-- What was written to a stream, in the order of time. -/
def writtenTo (k : Kernel) (n : Nat) : List (Nat × Bytes) :=
  match k.channel n with
  | .sink written =>
      (written.reverse.mergeSort fun a b => decide (a.time ≤ b.time)).map fun w => (w.time, w.text)
  | _ => []

/-- All that was written to a stream. -/
def textWrittenTo (k : Kernel) (n : Nat) : Bytes := (k.writtenTo n).flatMap (·.2)

/-- The reading end of a stream whose writing end has been used until a time. -/
def streamOf (k : Kernel) (n closes : Nat) : Nat × Kernel :=
  k.addChannel (.stream (k.writtenTo n) closes)

end Kernel

end DockerClient
