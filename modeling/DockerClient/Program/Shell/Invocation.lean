import DockerClient.Program.Check
import DockerClient.Program.Format
import DockerClient.Program.Shell.Input
import DockerClient.Program.Shell.Jobs
import DockerClient.Program.Shell.Places
import DockerClient.Program.Shell.Settings
import DockerClient.Program.Shell.Streams

/-
**Calling commands.**

* `Shell.Invocation`, `Shell.invocationOf` — a command with its fields: what it names, and how it is called;
* `Shell.plainBuiltin?` — the commands of the shell that run no others;
* `Shell.guarded` — runs a command of the shell and writes what it printed;
* `Shell.fork` — runs steps in a copy of the shell.
-/

set_option relaxedAutoImplicit false
set_option autoImplicit false

namespace DockerClient.Shell

/-! ### The fields of a command -/

/-- A command with its fields.  It may be looked for without functions, or on the standard search
path; a special one ends the shell if it fails. -/
structure Invocation where
  fields : List Bytes
  rest : List Script.Word := []
  functions : Bool := true
  standard : Bool := false
  builtin : Option Builtin := none
  special : Bool := false

/-- Expands words until there is a field; gives the fields and the other words. -/
def moreFields (run : Substitute) : List Script.Word → Shell (List Bytes × List Script.Word)
  | [] => pure ([], [])
  | w :: rest => do
      let fields ← fieldsOf run w
      if fields.isEmpty then moreFields run rest else pure (fields, rest)

/-- A call that has a field at a place, if there are words left for it. -/
def Invocation.reach (run : Substitute) (place : Nat) (c : Invocation) : Shell Invocation := do
  if place < c.fields.length then pure c
  else
    let (fields, rest) ← moreFields run c.rest
    pure { c with fields := c.fields ++ fields, rest := rest }

/-- Where the command begins that `command` calls: after its options, none if there is none or if an
option asks for something else. -/
def calledAt (run : Substitute) : Nat → Nat → Invocation → Shell (Invocation × Option Nat)
  | 0, _, c => pure (c, none)
  | fuel + 1, place, c => do
      let c ← c.reach run place
      match c.fields[place]? with
      | none => pure (c, none)
      | some ['-', '-'] =>
          let c ← c.reach run (place + 1)
          pure (c, if place + 1 < c.fields.length then some (place + 1) else none)
      | some ('-' :: l :: letters) =>
          if (l :: letters).all (· = 'p') then calledAt run fuel (place + 1) { c with standard := true }
          else pure (c, none)
      | some _ => pure (c, some place)

/-- Finds out what kind of command the first field is. -/
def classify (run : Substitute) : Nat → Bool → Invocation → Shell Invocation
  | 0, _, c => pure c
  | fuel + 1, first, c => do
      match (← get).ownCommand? c.functions (c.fields.head?.getD []) with
      | some (.builtin b special) =>
          let c := { c with builtin := some b, special := if first then special else c.special }
          if b = .command then
            match ← calledAt run 1000 1 c with
            | (called, some place) =>
                classify run fuel false
                  { called with fields := called.fields.drop place, functions := false,
                                builtin := none }
            | (c, none) => pure { c with standard := false }
          else pure c
      | _ => pure { c with builtin := none }

/-- The fields of words; settings are not divided if the command takes such. -/
def argumentsOf (run : Substitute) (settings : Bool) : List Script.Word → Shell (List Bytes)
  | [] => pure []
  | w :: rest => do
      let fields ←
        if settings && Script.isSetting w then pure [← settingOf run w] else fieldsOf run w
      pure (fields ++ (← argumentsOf run settings rest))

/-- A command with all its fields. -/
def invocationOf (run : Substitute) (words : List Script.Word) : Shell Invocation := do
  let (fields, rest) ← moreFields run words
  if fields.isEmpty then pure { fields := [] }
  else
    let c ← classify run 1000 true { fields := fields, rest := rest }
    let settings := (c.builtin.map Builtin.takesSettings).getD false
    let more ← argumentsOf run settings c.rest
    pure { c with fields := c.fields ++ more, rest := [] }

/-- Traces a command on a stream, if that is asked for. -/
def trace (run : Substitute) (channel : Option Nat) (settings fields : List Bytes) :
    Shell Unit := do
  let st ← get
  if !st.has 'x' then pure ()
  else
    let mark := (st.value? "PS4".toList).getD []
    let quiet := st.withOption 'x' false
    let lead ←
      match Script.quotedWord? mark with
      | some word =>
          set quiet
          let text ← belowOf run word
          modify fun st => st.withOption 'x' true
          pure text
      | none => pure mark
    match channel with
    | none => pure ()
    | some n =>
        let text := lead ++ [' '].intercalate (settings ++ fields) ++ ['\n']
        onProcess fun p =>
          match p.kernel.write n text with
          | .ok k => { p with kernel := k }
          | .error _ => p

/-! ### Commands that run no others -/

/-- `echo`: prints its arguments, with the characters that are written with a backslash. -/
def echoCommand (args : List Bytes) : Shell Nat := do
  let silent := args.head? == some ['-', 'n']
  let words := if silent then args.drop 1 else args
  let rec go : List Bytes → Shell Unit
    | [] => pure ()
    | word :: rest => do
        let (text, stops) := Escape.text word
        print text
        if stops then pure ()
        else if rest.isEmpty then (if silent then pure () else print ['\n'])
        else
          print [' ']
          go rest
  go (if words.isEmpty then [[]] else words)
  pure 0

/-- `printf`: prints a format with its arguments. -/
def formatCommand (args : List Bytes) : Shell Nat := do
  let (_, args) ← optionsOf "" args
  match args with
  | [] => raise "usage: printf format [arg ...]".toList
  | format :: rest =>
      let (ending, printed) := Format.run format rest
      print printed.shown.reverse
      printed.complaints.reverse.forM warn
      match ending with
      | .failed text => raise text
      | _ => pure (if printed.complaints.isEmpty then 0 else 1)

/-- `test` and `[`: checks a condition. -/
def checkCommand (name : Bytes) (args : List Bytes) : Shell Nat := do
  let condition ←
    if name.head? = some '[' then
      match args.getLast? with
      | some (']' :: _) => pure args.dropLast
      | _ => raise "missing ]".toList
    else pure args
  match Check.holds (← get).process condition with
  | .ok true => pure 0
  | .ok false => pure 1
  | .error e => raise e.text

/-- `command` and `type` say what names stand for. -/
def describeAll (otherPath : Option Bytes) (verbose : Bool) (names : List Bytes) : Shell Nat := do
  let statuses ← names.mapM (describe otherPath verbose)
  pure (statuses.foldl max 0)

/-- `command` with options that ask for a description. -/
def commandCommand (args : List Bytes) : Shell Nat := do
  let (options, names) ← optionsOf "pvV" args
  let asks (c : Char) : Bool := options.any (·.1 == c)
  if !(asks 'v' || asks 'V') then pure 0
  else describeAll (if asks 'p' then some standardPath else none) (asks 'V') (names.take 1)

/-- `break` and `continue`: leaves or repeats loops. -/
def leaveCommand (again : Bool) (args : List Bytes) : Shell Nat := do
  let n ← match args with
    | a :: _ => do
        let n ← countOf a
        if n = 0 then raise ("Illegal number: ".toList ++ a) else pure n
    | [] => pure 1
  let n := min n (← get).loops
  if 0 < n then
    modify fun st => { st with skip := if again then .again n else .leave n }
  pure 0

/-- `return`: leaves a function or a script. -/
def returnCommand (args : List Bytes) : Shell Nat := do
  let status ← match args with
    | a :: _ => countOf a
    | [] => pure (← get).status
  modify fun st => { st with skip := .function (!args.isEmpty) }
  pure status

/-- `exit`: ends the shell. -/
def exitCommand (args : List Bytes) : Shell Nat := do
  let st ← get
  let status ← match args with
    | a :: _ => countOf a
    | [] => pure (st.statusBefore.getD st.status)
  modify fun st => { st with status := status }
  throw .leave

/-- `times`: how long the shell and its programs have worked. -/
def timesCommand : Shell Nat := do
  let line := "0m0.000000s 0m0.000000s\n".toList
  print (line ++ line)
  pure 0

/-- `ulimit`: there are no limits. -/
def limitCommand (args : List Bytes) : Shell Nat := do
  let (_, rest) ← optionsOf "HSatfdscmlpnvwr" args
  if rest.isEmpty then print "unlimited\n".toList
  pure 0

/-- What a command of the shell does that runs no others. -/
def plainBuiltin? (b : Builtin) (name : Bytes) (args : List Bytes) : Option (Shell Nat) :=
  match b with
  | .alias => some (aliasCommand args)
  | .background | .foreground => some (resumeCommand args)
  | .check => some (checkCommand name args)
  | .colon => some (pure 0)
  | .command => some (commandCommand args)
  | .directory => some (directoryCommand args)
  | .echo => some (echoCommand args)
  | .enter => some (enterCommand args)
  | .exit => some (exitCommand args)
  | .export => some (exportCommand name false args)
  | .fail => some (pure 1)
  | .flags => some (flagsCommand args)
  | .format => some (formatCommand args)
  | .hash => some (hashCommand args)
  | .jobs => some (jobsCommand args)
  | .kill => some (killCommand args)
  | .leave => some (leaveCommand false args)
  | .limit => some (limitCommand args)
  | .localVariable => some (localCommand args)
  | .mask => some (maskCommand args)
  | .read => some (readCommand args)
  | .readOnly => some (exportCommand name true args)
  | .repeat => some (leaveCommand true args)
  | .return => some (returnCommand args)
  | .set => some (setCommand args)
  | .shift => some (shiftCommand args)
  | .times => some timesCommand
  | .trap => some (trapCommand args)
  | .type => some (describeAll none true args)
  | .unalias => some (unaliasCommand args)
  | .unset => some (unsetCommand args)
  | .wait => some (waitCommand args)
  | .evaluate | .replace | .source => none

/-! ### Running -/

/-- Runs a command of the shell under its name, and writes what it printed.  A fault ends the shell
only if the command is special. -/
def guarded (special : Bool) (name : Option Bytes) (step : Shell Nat) : Shell Unit := fun st =>
  let label := st.label
  let body : Shell Unit := do
    let status ← step
    if ← flush then modify fun st => { st with status := status }
    else
      warn (name.getD [] ++ ": I/O error".toList)
      modify fun st => { st with status := status ||| 1 }
  match body { st with label := name.orElse fun _ => label } with
  | .ok _ st => .ok () { st with label := label }
  | .error .fault st =>
      if special then .error .fault { st with label := label } else .ok () { st with label := label }
  | .error e st => .error e { st with label := label }

/-- How many calls of functions may be open at once. -/
def maxCalls : Nat := 1000

/-- How deep functions, scripts in texts and copies of a shell may be nested. -/
def maxDepth : Nat := 6000

/-- Ends a shell that is nested too deep. -/
def checkDepth : Shell Unit := do
  if maxDepth < (← get).depth then throw (.ended (.killed 11))

/-- Takes steps one level deeper. -/
def deeper {α : Type} (step : Shell α) : Shell α := fun st =>
  match (do checkDepth; step : Shell α) { st with depth := st.depth + 1 } with
  | .ok a last => .ok a { last with depth := st.depth }
  | .error e last => .error e { last with depth := st.depth }

/-- Whether something is to be done when signals arrive or the shell ends. -/
def State.hasTraps (st : State) : Bool := st.traps.any fun t => !t.2.isEmpty

/-- Runs steps in a copy of the shell, which `conclude` ends; gives its ending and the channels that
it had open at last. -/
def fork (conclude : Shell Ending) (change : State → State) (step : Shell Unit) :
    Shell (Ending × List Nat) := fun st =>
  let st := st.dropJobs
  let k := st.process.kernel
  let number := k.processes + 1
  let k := { k with processes := number, clock := k.clock + Kernel.startTime }
  let child : State :=
    change { st with
      process := { st.process with
        kernel := k, number := number, above := st.process.number :: st.process.above }
      traps := st.traps.filter fun t => t.2.isEmpty
      jobs := [], arrived := [], depth := st.depth + 1 }
  let finish (st : State) : Ending × State :=
    match conclude st with
    | .ok e st => (e, st)
    | .error (.ended e) st => (e, st)
    | .error _ st => (.exited (st.status % 256), st)
  let (e, last) : Ending × State :=
    match (do checkDepth; step : Shell Unit) child with
    | .ok _ st => finish st
    | .error (.ended e) st => (e, st)
    | .error _ st => finish st
  .ok (e, last.process.streams.map (·.2))
    { st with process := { st.process with kernel := last.process.kernel } }

/-- A copy of the shell that runs aside: it does not hear the keyboard, neither its signals nor its
input. -/
def besides (st : State) : State :=
  let (n, k) := st.process.kernel.addChannel (.device .null)
  { st with process :=
    { st.process with kernel := k, ignored := 2 :: 3 :: st.process.ignored }.setStream 0 n }

/-- Reads the script in a file; a directory counts as an empty one. -/
def readScript (path : Bytes) : Shell Bytes := do
  let st ← get
  match st.process.readFile path with
  | .ok (text, p) =>
      set { st with process := p }
      pure text
  | .error .isDirectory => pure []
  | .error e => refuseFile false path e

/-- What follows the end of a copy that the shell waits for. -/
def afterFork (e : Ending) : Shell Unit := do
  if e = .endless then throw (.ended .endless)
  sayEnding e
  noticeJobs
  receive

end DockerClient.Shell
