import DockerClient.Credentials.Resolver
import DockerClient.Duration
import DockerClient.Program.Run
import DockerClient.World.Basic
import DockerClient.World.Path

/-
**Starting programs.**

* `Program.Machine` — the files and the environment that programs are started with, and that they may
  leave changed;
* `Program.complete` — runs a program on an input to its end;
* `Program.search` — a program by its name and a search path;
* `Program.helperRunner`, `Program.lookupWithin` — asks credential helpers that are programs, and
  does not wait longer than a limit.
-/

set_option relaxedAutoImplicit false
set_option autoImplicit false

namespace DockerClient.Program

/-- What programs are started with. -/
structure Machine where
  tree : FileTree
  env : List (String × String)

/-- The directories to search for programs. -/
def Machine.searchPath (m : Machine) : String := (m.env.lookup "PATH").getD ""

/-- The home directory. -/
def Machine.home (m : Machine) : Option String := (m.env.lookup "HOME").filter (· ≠ "")

/-- The first one of the settings of each variable. -/
def firstSettings (env : List (String × String)) : List (Bytes × Bytes) :=
  (env.foldl (fun kept e => if kept.any (·.1 == e.1) then kept else kept ++ [e]) []).map fun e =>
    (Bytes.ofText e.1, Bytes.ofText e.2)

/-! ### Running -/

/-- What a program left, after how many nanoseconds, and the machine after it. -/
structure Completion where
  output : HelperOutput
  elapsed : Nat
  machine : Machine

/-- The process that a program begins as, with an input and two streams for what it writes. -/
def begin (m : Machine) (input : List UInt8) : Process where
  kernel :=
    { tree := m.tree, clock := Kernel.startTime
      channels := #[.stream [(0, Bytes.ofRaw input)] 0, .sink [], .sink []] }
  environment := firstSettings m.env
  streams := [(0, 0), (1, 1), (2, 2)]
  above := [4241]

/-- What is left of a program. -/
def completionOf (m : Machine) (r : Ending × Process) : Completion :=
  let k := r.2.kernel
  { output :=
      { stdout := Bytes.toRaw (k.textWrittenTo 1), stderr := Bytes.toRaw (k.textWrittenTo 2)
        exitCode := match r.1 with | .exited status => some status | _ => none }
    elapsed := if r.1 = .endless then Kernel.never else max (k.closing 1) (k.closing 2)
    machine := { m with tree := k.tree } }

/-- Runs the first one of some paths where there is something that may be run; what is there must be
a program. -/
def runFirst (p : Process) (fields : List Bytes) : List Bytes → Option (Ending × Process)
  | [] => none
  | path :: rest =>
      match Run.program p path fields with
      | .ok r => some r
      | .error .noEntry | .error .notDirectory | .error .denied => runFirst p fields rest
      | .error _ => none

/-- The paths of a program that is named by a path, or by a name to be searched for. -/
def pathsOf (m : Machine) (program : String) : List Bytes :=
  let name := Bytes.ofText program
  if name.isEmpty ∨ name.contains '/' then [name]
  else Process.pathsOf (Bytes.ofText m.searchPath) name

/-- Runs a program on an input to its end.  A null character can not be part of an argument. -/
def complete (m : Machine) (program : String) (args : List String) (input : List UInt8) :
    Except Error Completion :=
  if (program :: args).any fun arg => arg.toList.contains '\x00' then .error (.spawn program)
  else
    match runFirst (begin m input) ((program :: args).map Bytes.ofText) (pathsOf m program) with
    | some r => .ok (completionOf m r)
    | none => .error (.spawn program)

/-! ### Finding -/

/-- A directory of a search path, with the home directory in place of a tilde. -/
def directoryOf (m : Machine) (dir : String) : String :=
  match m.home with
  | some home =>
      if dir = "~" then home
      else
        match Text.after? "~/" dir with
        | some rest => Path.join home rest
        | none => dir
  | none => dir

/-- Whether there is a file at a path that may be executed. -/
def isRunnable (tree : FileTree) (path : String) : Bool :=
  match tree.find path with
  | .ok (.file _ executable) => executable
  | .ok (.tool _) => true
  | _ => false

/-- The first executable file with a name in the directories of a search path. -/
def search (m : Machine) (searchPath name : String) : Option String :=
  if name.toList.contains '/' then
    if isRunnable m.tree name then some name else none
  else
    ((Text.pieces searchPath ':').map fun dir => Path.join (directoryOf m dir) name).find?
      (isRunnable m.tree)

/-! ### Helpers -/

/-- Finds a helper and runs it. -/
def runHelper (m : Machine) (searchPath : String) (call : HelperCall) :
    Except Error Completion :=
  match search m searchPath call.program with
  | none => .error (.helperNotFound call.program)
  | some path => complete m path [call.verb] (Text.encode call.stdin)

/-- The machine after some calls, and how long the programs took that were started for them, none if
none was started. -/
def runHelpers (searchPath : String) :
    List HelperCall → Machine × Option Nat → Machine × Option Nat
  | [], r => r
  | call :: rest, (m, time) =>
      match runHelper m searchPath call with
      | .ok done => runHelpers searchPath rest (done.machine, some (time.getD 0 + done.elapsed))
      | .error _ => runHelpers searchPath rest (m, time)

/-- Asks credential helpers that are programs.  Each finds the files as those before it left them. -/
def helperRunner (m : Machine) (searchPath : String) : HelperRunner := fun before call =>
  (runHelper (runHelpers searchPath before (m, none)).1 searchPath call).map (·.output)

/-- The machine after an inquiry. -/
def Machine.after (m : Machine) (searchPath : String) (asked : Inquiry) : Machine :=
  (runHelpers searchPath asked.calls (m, none)).1

/-- The credentials for a host, unless asking takes longer than a limit in nanoseconds, and the
machine afterwards. -/
def lookupWithin (limit : Nat) (m : Machine) (searchPath : String) (config : ConfigFile)
    (host : String) : Except Error Credentials × Machine :=
  let asked := Credentials.lookup config (helperRunner m searchPath) host
  let (after, time) := runHelpers searchPath asked.calls (m, none)
  if (Duration.race limit time).1 then (asked.result, after)
  else (.error (.timeout (Duration.elapsedText limit)), after)

end DockerClient.Program
