import DockerClient.Program.Kernel
import DockerClient.Program.Signal

/-
**Processes**: running programs, one at a time.

* `Process` — arguments, environment, working directory and open streams of a program;
* `Ending` — how a program ended;
* `Process.write`, `Process.say` — writes to a stream, and to the stream for messages;
* `Process.readAll`, `Process.readSome` — reads from a stream;
* `Process.load` — what a program file is: a tool, a script with its interpreter, or nothing that can
  be run.
-/

set_option relaxedAutoImplicit false
set_option autoImplicit false

namespace DockerClient

/-- How a program ended. -/
inductive Ending where
  | exited (status : Nat)
  | killed (signal : Nat)
  | endless
deriving DecidableEq, Repr

/-- The status that a shell sees of an ending. -/
def Ending.status : Ending → Nat
  | .exited status => status
  | .killed signal => 128 + signal
  | .endless => 137

/-- A running program: what it shares with others, its arguments, environment, working directory and
open streams, its number and those of the processes above it, the signals that it does not care for,
and the rights that it does not give. -/
structure Process where
  kernel : Kernel
  arguments : List Bytes := []
  environment : List (Bytes × Bytes) := []
  directory : Bytes := ['/']
  streams : List (Nat × Nat) := []
  number : Nat := 4242
  above : List Nat := []
  ignored : List Nat := []
  mask : Nat := 18

namespace Process

/-! ### Streams -/

/-- The channel of a stream. -/
def channel? (p : Process) (fd : Nat) : Option Nat := p.streams.lookup fd

/-- The process with a stream set to a channel. -/
def setStream (p : Process) (fd channel : Nat) : Process :=
  { p with streams := (fd, channel) :: p.streams.filter (·.1 ≠ fd) }

/-- The process without a stream. -/
def closeStream (p : Process) (fd : Nat) : Process :=
  { p with streams := p.streams.filter (·.1 ≠ fd) }

/-- Writes to a stream. -/
def write (p : Process) (fd : Nat) (text : Bytes) : Except SystemFault Process :=
  if text.isEmpty then .ok p
  else
    match p.channel? fd with
    | none => .error .badDescriptor
    | some n => (p.kernel.write n text).map fun k => { p with kernel := k }

/-- Writes to the stream for messages; that this fails is not noticed. -/
def say (p : Process) (text : Bytes) : Process :=
  match p.write 2 text with
  | .ok p => p
  | .error _ => p

/-- Reads at most so many bytes from a stream; none at the end. -/
def readSome (p : Process) (fd count : Nat) : Except SystemFault (Bytes × Process) :=
  match p.channel? fd with
  | none => .error .badDescriptor
  | some n => (p.kernel.read n count).map fun r => (r.1, { p with kernel := r.2 })

/-- How much is read at once. -/
def block : Nat := 131072

/-- Reads blocks up to the end of a stream, the last one first. -/
def readBlocks (fd : Nat) : Nat → List Bytes → Process → Except SystemFault (List Bytes × Process)
  | 0, done, p => .ok (done, p)
  | fuel + 1, done, p =>
      match p.readSome fd block with
      | .error e => .error e
      | .ok ([], p) => .ok (done, p)
      | .ok (text, p) => readBlocks fd fuel (text :: done) p

/-- Reads a stream up to its end. -/
def readAll (p : Process) (fd : Nat) : Except SystemFault (Bytes × Process) :=
  (readBlocks fd 10000 [] p).map fun r => (r.1.reverse.flatten, r.2)

/-- Opens the file at a path as a stream of its own, which is not listed; gives its channel. -/
def open? (p : Process) (path : Bytes) (opening : Opening) : Except SystemFault (Nat × Process) :=
  let own? (dir : String) : Option Nat :=
    (Bytes.after? dir.toList path).bind fun s => if s.isEmpty then none else Numeral.count? s
  let listed (fd : Nat) : Except SystemFault (Nat × Process) :=
    match p.channel? fd with
    | some n => .ok (n, p)
    | none => .error .noEntry
  if path = "/dev/stdin".toList then listed 0
  else if path = "/dev/stdout".toList then listed 1
  else if path = "/dev/stderr".toList then listed 2
  else
    match own? "/dev/fd/", own? "/proc/self/fd/" with
    | some fd, _ => listed fd
    | none, some fd => listed fd
    | none, none =>
        (p.kernel.open? p.directory path opening).map fun r => (r.1, { p with kernel := r.2 })

/-- Reads the file at a path up to its end. -/
def readFile (p : Process) (path : Bytes) : Except SystemFault (Bytes × Process) :=
  match p.open? path .read with
  | .error e => .error e
  | .ok (n, q) => ((q.setStream 9 n).readAll 9).map fun r => (r.1, { r.2 with streams := p.streams })

/-- What is at a path. -/
def find (p : Process) (path : Bytes) : Except SystemFault FileTree :=
  p.kernel.find p.directory path

/-- Whether there is a directory at a path. -/
def isDirectory (p : Process) (path : Bytes) : Bool :=
  match p.find path with
  | .ok (.dir _) => true
  | _ => false

/-! ### Program files -/

/-- What a program file is. -/
inductive Loaded where
  | tool (t : Tool)
  | script (interpreter : Bytes) (argument : Option Bytes)

/-- The interpreter that a script names in its first line, with an optional argument. -/
def interpreter? (script : Bytes) : Option (Bytes × Option Bytes) :=
  let blank (c : Char) : Bool := c == ' ' || c == '\t'
  match script with
  | '#' :: '!' :: rest =>
      let line := (rest.takeWhile (· ≠ '\n')).dropWhile blank
      let line := (line.reverse.dropWhile blank).reverse
      let name := (line.takeWhile fun c => !blank c).takeWhile (· ≠ '\x00')
      let argument := ((line.drop name.length).dropWhile blank).takeWhile (· ≠ '\x00')
      if name.isEmpty then none
      else some (name, if argument.isEmpty then none else some argument)
  | _ => none

/-- How much of a script is looked at for its interpreter. -/
def headSize : Nat := 256

/-- What the file at a path is as a program, unless it can not be run. -/
def load (p : Process) (path : Bytes) : Except SystemFault Loaded :=
  match p.find path with
  | .error e => .error e
  | .ok (.tool t) => .ok (.tool t)
  | .ok (.file content true) =>
      match interpreter? (Bytes.ofRaw (content.take headSize)) with
      | some (name, argument) => .ok (.script name argument)
      | none => .error .badFormat
  | .ok _ => .error .denied

/-- How many interpreters may stand behind each other. -/
def maxInterpreters : Nat := 5

/-- The tool that the program at a path is run by, and its arguments after the program's own name
`name` and arguments. -/
def resolve (p : Process) (name : Bytes) (arguments : List Bytes) :
    Nat → Bytes → Except SystemFault (Tool × List Bytes)
  | 0, _ => .error .tooManyLinks
  | depth + 1, path =>
      match p.load path with
      | .error e => .error e
      | .ok (.tool t) => .ok (t, name :: arguments)
      | .ok (.script interpreter argument) =>
          resolve p interpreter (argument.toList ++ path :: arguments) depth interpreter

/-- The tool that runs a program, with all its arguments. -/
def toolFor (p : Process) (path name : Bytes) (arguments : List Bytes) :
    Except SystemFault (Tool × List Bytes) :=
  p.resolve name arguments (maxInterpreters + 1) path

/-- The paths of a name in the directories of a search path, in order. -/
def pathsOf (searchPath name : Bytes) : List Bytes :=
  (Text.segments ':' searchPath).map fun dir =>
    if dir.isEmpty then name else dir ++ '/' :: name

end Process

end DockerClient
