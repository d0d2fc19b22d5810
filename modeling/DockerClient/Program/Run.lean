import DockerClient.Program.Shell.Invocation
import DockerClient.Program.Tools.Basic

/-
**Running commands, scripts and programs.**

A command changes the state of its shell; a program changes what processes share, and ends.  Both may
go on without end, so that what they may do is bounded: by a number of steps one below the other, and
by the time.

* `Shell.Flags` — whether a shell ends with a command, and whether the status is looked at;
* `Run.eval` — runs a command; `Run.lines` — runs a script, line by line;
* `Run.execute` — runs the program at a path.
-/

set_option relaxedAutoImplicit false
set_option autoImplicit false

namespace DockerClient

namespace Shell

/-- Whether a shell ends with a command, and whether the status of the command is looked at, so that
it may be other than zero. -/
structure Flags where
  exits : Bool := false
  tested : Bool := false

/-- How long a shell may run, in nanoseconds. -/
def patience : Nat := 3600000000000

/-- Ends a shell that runs too long. -/
def checkPatience : Shell Unit := do
  if patience < (← get).process.kernel.clock then throw (.ended .endless)

/-- Sets the status. -/
def setStatus (status : Nat) : Shell Unit := modify fun st => { st with status := status }

/-- Sets the line that complaints are about. -/
def setLine (line : Nat) : Shell Unit := modify fun st => { st with line := line }

/-- Ends a loop, or lets it go on: whether it is left, and whether that is because of a function. -/
def endRound : Shell Skip := do
  let st ← get
  match st.skip with
  | .leave n =>
      if n ≤ 1 then
        set { st with skip := .nothing }
        pure (.leave 1)
      else
        set { st with skip := .leave (n - 1) }
        pure (.leave 1)
  | .again n =>
      if n ≤ 1 then
        set { st with skip := .nothing }
        pure (.again 1)
      else
        set { st with skip := .again (n - 1) }
        pure (.leave 1)
  | s => pure s

/-- Whether a loop goes on. -/
def Skip.goesOn : Skip → Bool
  | .nothing | .again _ => true
  | _ => false

/-- What is left to skip when a function or script has ended. -/
def endFunction (st : State) : State :=
  match st.skip with
  | .function _ => { st with skip := .nothing }
  | _ => st

/-- The state of a shell that a program starts with. -/
def State.initial (p : Process) : State :=
  let base : List Variable :=
    [⟨"PATH".toList, some standardPath, false, false, true⟩,
     ⟨"PS1".toList, some "# ".toList, false, false, true⟩,
     ⟨"PS2".toList, some "> ".toList, false, false, true⟩,
     ⟨"PS4".toList, some "+ ".toList, false, false, true⟩]
  let st : State :=
    { process := p, name := p.arguments.head?.getD [], root := p.number, deaf := p.ignored,
      bindings := base }
  let put (st : State) (name value : Bytes) (exported : Bool) : State :=
    let old := st.find? name
    st.putVariable
      { name, value := some value, lasting := (old.map (·.lasting)).getD false
        exported := exported || (old.map (·.exported)).getD false }
  let st := p.environment.foldl (fun st e =>
    if Script.isName e.1 then put st e.1 e.2 true else st) st
  let st := put st "IFS".toList [' ', '\t', '\n'] false
  let st := put st "OPTIND".toList ['1'] false
  let st := put st "PPID".toList (Bytes.ofNat (p.above.head?.getD 1)) false
  let place (path : Bytes) : Option (List String) :=
    match p.kernel.place ['/'] path with
    | .ok (names, some (.dir _)) => some names
    | _ => none
  let directory :=
    match st.value? "PWD".toList with
    | some path =>
        if path.head? = some '/' ∧ place path = place p.directory then path else p.directory
    | none => p.directory
  { put st "PWD".toList directory true with directory := directory }

end Shell

namespace Run

open Shell

/-! ### Commands, scripts and programs -/

mutual

/-- Runs a command. -/
def eval : Nat → Flags → Script.Command → Shell Unit
  | 0, _, _ => throw (.ended .endless)
  | fuel + 1, f, c => do
      checkPatience
      let within : Flags := { tested := f.tested }
      let looked : Flags := { tested := true }
      if (← get).has 'n' then after fuel f false
      else
        match c with
        | .empty => after fuel f false
        | .simple line settings words redirects =>
            traps fuel
            simple fuel f line settings words redirects
            after fuel f true
        | .seq first second =>
            traps fuel
            eval fuel within first
            if (← get).skip = .nothing then eval fuel f second else after fuel f false
        | .both first second =>
            traps fuel
            eval fuel looked first
            let st ← get
            if st.status = 0 ∧ st.skip = .nothing then eval fuel f second else after fuel f false
        | .either first second =>
            traps fuel
            eval fuel looked first
            let st ← get
            if st.status ≠ 0 ∧ st.skip = .nothing then eval fuel f second else after fuel f false
        | .negate c =>
            traps fuel
            eval fuel looked c
            let st ← get
            if st.skip = .nothing then setStatus (if st.status = 0 then 1 else 0)
            after fuel f false
        | .pipe commands aside =>
            traps fuel
            if aside then
              runAside fuel (stages fuel true f.tested commands none 0)
              setStatus 0
            else
              let endings ← stages fuel false f.tested commands none 0
              endings.forM afterFork
              setStatus ((endings.getLast?.map Ending.status).getD 0)
            after fuel f true
        | .choose condition yes no =>
            traps fuel
            eval fuel looked condition
            let st ← get
            if st.skip ≠ .nothing then after fuel f false
            else if st.status = 0 then eval fuel f yes
            else
              match no with
              | some c => eval fuel f c
              | none =>
                  setStatus 0
                  after fuel f false
        | .loop condition body untilTrue =>
            traps fuel
            modify fun st => { st with loops := st.loops + 1 }
            let status ← loop fuel within condition body untilTrue 0
            modify fun st => { st with loops := st.loops - 1, status := status }
            after fuel f false
        | .each line name words body =>
            traps fuel
            setLine line
            let fields ← argumentsOf (output fuel) false words
            modify fun st => { st with loops := st.loops + 1 }
            let status ← each fuel within name body fields 0
            modify fun st => { st with loops := st.loops - 1, status := status }
            after fuel f false
        | .select line subject arms =>
            traps fuel
            setLine line
            let text ← textOf (output fuel) subject
            match ← choose fuel text arms with
            | some (.empty) | none => setStatus 0
            | some c => eval fuel f c
            after fuel f false
        | .redirected line body redirects =>
            traps fuel
            setLine line
            let changed ← aims (output fuel) redirects
            let before := (← get).process.streams
            restoring before changed do
              if ← attempt (redirect (output fuel) true changed) then eval fuel within body
            after fuel f false
        | .subshell line body redirects =>
            traps fuel
            setLine line
            let changed ← aims (output fuel) redirects
            let inside : Flags := { exits := true, tested := f.tested }
            if f.exits && !(← get).hasTraps then
              redirect (output fuel) false changed
              eval fuel inside body
            else
              let (e, _) ← fork (conclude fuel) id do
                redirect (output fuel) false changed
                eval fuel inside body
              afterFork e
              setStatus e.status
            after fuel f true
        | .aside line body redirects =>
            traps fuel
            setLine line
            let changed ← aims (output fuel) redirects
            runAside fuel do
              let (e, channels) ← fork (conclude fuel) besides do
                redirect (output fuel) false changed
                eval fuel { exits := true } body
              modify fun st => { st with process := { st.process with
                kernel := { st.process.kernel with aside := st.process.kernel.aside.map fun a =>
                  if a.task = st.process.kernel.task then { a with channels := channels } else a } } }
              pure [e]
            setStatus 0
            after fuel f true
        | .define line name body => do
            traps fuel
            modify fun st => { st with
              functions := (name, line, body) :: st.functions.filter (·.1 ≠ name), status := 0 }
            after fuel f false

/-- What follows a command: the shell may end because of its status, signals are cared for, and the
shell may end with it. -/
def after : Nat → Flags → Bool → Shell Unit
  | 0, _, _ => throw (.ended .endless)
  | fuel + 1, f, checks => do
      let st ← get
      if checks && !f.tested && st.has 'e' && st.status != 0 then throw .leave
      traps fuel
      if f.exits then throw .leave

/-- Cares for the signals that have arrived, in the order of their numbers. -/
def traps : Nat → Shell Unit
  | 0 => throw (.ended .endless)
  | fuel + 1 => do
      let st ← get
      if st.arrived.isEmpty ∨ st.skip ≠ .nothing then pure ()
      else
        let first := st.arrived.foldl min Signal.bound
        let outer := st.statusBefore
        let status := outer.getD st.status
        set { st with arrived := st.arrived.filter (· ≠ first), statusBefore := some status }
        match st.traps.lookup first with
        | some action =>
            let _ ← script fuel {} action
            let st ← get
            if st.skip ≠ .function true then setStatus status
        | none => pure ()
        modify fun st => { st with statusBefore := outer }
        traps fuel

/-- Repeats commands under a condition; gives the status. -/
def loop : Nat → Flags → Script.Command → Script.Command → Bool → Nat → Shell Nat
  | 0, _, _, _, _, _ => throw (.ended .endless)
  | fuel + 1, f, condition, body, untilTrue, status => do
      eval fuel { tested := true } condition
      let tested := (← get).status
      let skip ← endRound
      match skip with
      | .function _ => pure tested
      | .leave _ => pure status
      | .again _ => loop fuel f condition body untilTrue status
      | .nothing =>
          if (tested == 0) == untilTrue then pure status
          else
            eval fuel f body
            let status := (← get).status
            if (← endRound).goesOn then loop fuel f condition body untilTrue status
            else pure status

/-- Repeats commands for each of some fields; gives the status. -/
def each : Nat → Flags → Bytes → Script.Command → List Bytes → Nat → Shell Nat
  | 0, _, _, _, _, _ => throw (.ended .endless)
  | _ + 1, _, _, _, [], status => pure status
  | fuel + 1, f, name, body, field :: rest, _ => do
      setVariable name field
      eval fuel f body
      let status := (← get).status
      if (← endRound).goesOn then each fuel f name body rest status else pure status

/-- The commands of the first arm that has the form of a text. -/
def choose : Nat → Bytes → List (List Script.Word × Script.Command) → Shell (Option Script.Command)
  | 0, _, _ => throw (.ended .endless)
  | _ + 1, _, [] => pure none
  | fuel + 1, text, ([], _) :: arms => choose fuel text arms
  | fuel + 1, text, (pattern :: patterns, c) :: arms => do
      if Pattern.admits (← patternOf (output fuel) pattern) text then pure (some c)
      else choose fuel text ((patterns, c) :: arms)

/-- Runs commands side by side, each one's output the input of the next; gives their endings. -/
def stages : Nat → Bool → Bool → List Script.Command → Option Nat → Nat → Shell (List Ending)
  | 0, _, _, _, _, _ => throw (.ended .endless)
  | _ + 1, _, _, [], _, _ => pure []
  | fuel + 1, aside, tested, c :: rest, input, latest => do
      let start := (← get).process.kernel.clock
      let sink ←
        if rest.isEmpty then pure none
        else
          let st ← get
          let (n, k) := st.process.kernel.addChannel (.sink [])
          set { st with process := { st.process with kernel := k } }
          pure (some n)
      let connect (st : State) : State :=
        let st := if aside then besides st else st
        let p := match input with
          | some n => st.process.setStream 0 n
          | none => st.process
        { st with process := match sink with
          | some n => p.setStream 1 n
          | none => p }
      let (e, _) ← fork (conclude fuel) connect (eval fuel { exits := true, tested := tested } c)
      let k := (← get).process.kernel
      match sink with
      | none =>
          onProcess fun p => { p with kernel := p.kernel.waitUntil latest }
          pure [e]
      | some n =>
          let goesOn := e == .endless && !(k.writtenTo n).isEmpty
          let closes := if e = .endless then Kernel.never else k.closing n
          let (m, k) := k.streamOf n closes
          onProcess fun p => { p with kernel := { k with clock := start } }
          let latest := if e = .endless then latest else max latest closes
          let endings ← stages fuel aside tested rest (some m) latest
          pure ((if goesOn then .killed 13 else e) :: endings)

/-- Runs steps aside, from now on; the shell does not wait for them. -/
def runAside : Nat → Shell (List Ending) → Shell Unit
  | 0, _ => throw (.ended .endless)
  | _ + 1, step => do
      let st ← get
      let k := st.process.kernel
      let task := k.processes + 1
      let own := st.process.streams
      let aside : Aside := ⟨task, k.clock, own.map (·.2)⟩
      set { st with process := { st.process with
        kernel := { k with task := task, aside := aside :: k.aside } } }
      let endings ← step
      modify fun st =>
        let after := st.process.kernel
        let e := endings.getLast?.getD (.exited 0)
        let finish := if e = .endless then Kernel.never else after.clock
        let after := { after with
          task := k.task, clock := k.clock
          aside := after.aside.map fun a => if a.task = task then { a with finish := finish } else a }
        let numbers := (List.range endings.length).map (task + ·)
        State.addJob { st with process := { st.process with kernel := after } } numbers task e finish

/-- Runs a simple command. -/
def simple : Nat → Flags → Nat → List Script.Word → List Script.Word → List Script.Redirect →
    Shell Unit
  | 0, _, _, _, _, _ => throw (.ended .endless)
  | fuel + 1, f, line, settings, words, redirects => do
      modify fun st => { st with line := line, substituted := 0 }
      let call ← invocationOf (output fuel) words
      let frames := (← get).locals.length
      let framed := !call.special && !call.fields.isEmpty
      if framed then pushFrame
      let changed ← aims (output fuel) redirects
      let before := (← get).process.streams
      let keeps := call.builtin == some .replace
      let step : Shell Unit := do
        if ← attempt (redirect (output fuel) true changed) then
          let texts ← assign fuel framed (keeps && decide (1 < call.fields.length)) settings
          trace (output fuel) (before.lookup 2) texts call.fields
          invoke fuel f call
        else if call.special then throw .fault
      let finish (st : State) : State :=
        if keeps then st else st.restoreStreams before changed
      fun st =>
        match step st with
        | .ok _ st => .ok () (finish st)
        | .error e st => .error e (st.restoreStreams before changed)
      popFrames frames ((← get).locals.length + 1)

/-- Sets variables before a command; gives the settings as texts. -/
def assign : Nat → Bool → Bool → List Script.Word → Shell (List Bytes)
  | 0, _, _, _ => throw (.ended .endless)
  | _ + 1, _, _, [] => pure []
  | fuel + 1, framed, exported, w :: rest => do
      let text ← settingOf (output fuel) w
      let (name, value) := splitSetting text
      if framed then makeLocal name value true
      else setMarked name value exported false false
      pure (text :: (← assign fuel framed exported rest))

/-- Runs a command that all words have been expanded of. -/
def invoke : Nat → Flags → Invocation → Shell Unit
  | 0, _, _ => throw (.ended .endless)
  | fuel + 1, f, call => do
      match call.fields with
      | [] => guarded false none do
          let st ← get
          pure st.substituted
      | name :: args =>
          match call.builtin with
          | some b => guarded call.special (some name) (builtin fuel f b name args)
          | none =>
              let other := if call.standard then some standardPath else none
              match ← search call.functions other name with
              | .function _ body => function fuel f body args
              | .builtin b special => guarded special (some name) (builtin fuel f b name args)
              | .missing e =>
                  warn (name ++ ": ".toList ++ runFaultText e)
                  setStatus 127
              | .program path _ =>
                  let st ← get
                  let paths :=
                    if name.contains '/' then [name]
                    else (Process.pathsOf (other.getD st.searchPath) name).dropWhile (· ≠ path)
                  if f.exits && !st.hasTraps then replace fuel paths call.fields
                  else
                    let (e, _) ← fork (conclude fuel) (fun st => { st with pending := [] })
                      (replace fuel paths call.fields)
                    afterFork e
                    setStatus e.status

/-- Runs a function. -/
def function : Nat → Flags → Script.Command → List Bytes → Shell Unit
  | 0, _, _, _ => throw (.ended .endless)
  | fuel + 1, f, body, args => do
      checkDepth
      let outer ← get
      if maxCalls ≤ outer.calls then
        raise (s!"Maximum function recursion depth ({maxCalls}) reached").toList
      let back (st : State) : State :=
        endFunction { st with
          parameters := outer.parameters, optionIndex := outer.optionIndex
          optionOffset := outer.optionOffset, loops := outer.loops, calls := outer.calls
          depth := outer.depth }
      set { outer with
        parameters := args, optionIndex := 1, optionOffset := none, loops := 0
        calls := outer.calls + 1, depth := outer.depth + 1 }
      fun st =>
        match eval fuel { tested := f.tested } body st with
        | .ok _ st => .ok () (back st)
        | .error e st => .error e (back st)

/-- Runs a command of the shell. -/
def builtin : Nat → Flags → Builtin → Bytes → List Bytes → Shell Nat
  | 0, _, _, _, _ => throw (.ended .endless)
  | fuel + 1, f, b, name, args => do
      match plainBuiltin? b name args with
      | some step => step
      | none =>
          match b with
          | .evaluate =>
              if args.isEmpty then pure 0
              else script fuel { tested := f.tested } ([' '].intercalate args)
          | .replace =>
              let (_, fields) ← optionsOf "" args
              match fields with
              | [] => pure 0
              | program :: _ =>
                  let st ← get
                  let paths :=
                    if program.contains '/' then [program]
                    else Process.pathsOf st.searchPath program
                  replace fuel paths fields
                  pure 0
          | _ =>
              let (_, operands) ← optionsOf "" args
              match operands with
              | [] => pure 0
              | file :: _ => source fuel file

/-- Runs the script in a file, which is looked for on the search path. -/
def source : Nat → Bytes → Shell Nat
  | 0, _ => throw (.ended .endless)
  | fuel + 1, file => do
      let st ← get
      let isFile (path : Bytes) : Bool :=
        match st.process.find path with
        | .ok (.file _ _) | .ok (.tool _) => true
        | _ => false
      let path : Bytes ←
        if file.contains '/' then pure file
        else
          match (Process.pathsOf st.searchPath file).find? isFile with
          | some path => pure path
          | none => raise (file ++ ": not found".toList)
      let text ← readScript path
      modify fun st => { st with label := some path }
      let status ← deeper (lines fuel {} (Script.Reader.ofScript text) 0 false)
      modify endFunction
      pure status

/-- Runs a script that is a text; gives its status. -/
def script : Nat → Flags → Bytes → Shell Nat
  | 0, _, _ => throw (.ended .endless)
  | fuel + 1, f, text => deeper (lines fuel f (Script.Reader.ofScript text) 0 false)

/-- Runs what is left of a script, line by line; gives its status.  The lines may be shown when they
have been read. -/
def lines : Nat → Flags → Script.Reader → Nat → Bool → Shell Nat
  | 0, _, _, _, _ => throw (.ended .endless)
  | fuel + 1, f, r, status, shows => do
      let st ← get
      let r := { r with aliases := st.aliases, nextText := st.nextText, texts := [] }
      let (step, next) := Script.next r
      set { st with
        texts := next.texts ++ st.texts, nextText := next.nextText, lastLine := next.line }
      if shows && st.has 'v' then say (r.taken next)
      match step with
      | .done => pure status
      | .complaint c =>
          setLine c.line
          raise ("Syntax error: ".toList ++ c.text.toList)
      | .commands c isLast =>
          eval fuel { f with exits := f.exits && isLast } c
          let st ← get
          let status :=
            match c with
            | .empty => status
            | _ => st.status
          if st.skip = .nothing then lines fuel f next status shows else pure status

/-- The output of a command that runs in a copy of the shell. -/
def output : Nat → Script.Command → Shell Bytes
  | 0, _ => throw (.ended .endless)
  | fuel + 1, c => do
      match c with
      | .empty => pure []
      | c =>
          let st ← get
          let (n, k) := st.process.kernel.addChannel (.sink [])
          set { st with process := { st.process with kernel := k } }
          let (e, _) ← fork (conclude fuel)
            (fun st => { st with process := st.process.setStream 1 n })
            (eval fuel { exits := true } c)
          if e = .endless then throw (.ended .endless)
          let k := (← get).process.kernel
          waitUntil (k.closing n)
          modify fun st => { st with substituted := e.status }
          afterFork e
          pure (k.textWrittenTo n)

/-- Ends a shell: what is to be done at its end is done, and what was printed is written. -/
def conclude : Nat → Shell Ending
  | 0 => throw (.ended .endless)
  | fuel + 1 => do
      modify fun st => { st with skip := .nothing, loops := 0 }
      let st ← get
      let finish : Shell Ending := do
        let _ ← flush
        pure (.exited ((← get).status % 256))
      match st.traps.lookup 0 with
      | none => finish
      | some action =>
          set { st with traps := st.traps.filter (·.1 ≠ 0), statusBefore := some st.status }
          let run : Shell Unit := do
            let _ ← script fuel {} action
            setStatus st.status
          fun st =>
            match run st with
            | .ok _ st => finish st
            | .error (.ended e) st => .error (.ended e) st
            | .error _ st => finish st

/-- Goes on as another program: the first one of some paths that can be run. -/
def replace : Nat → List Bytes → List Bytes → Shell Unit
  | 0, _, _ => throw (.ended .endless)
  | fuel + 1, paths, fields => do
      let st ← get
      let p := { st.process with environment := st.exportedVariables }
      match start fuel p paths fields .noEntry with
      | .ok (e, p) =>
          set { st with process := p }
          throw (.ended e)
      | .error e =>
          let absent := e = .noEntry ∨ e = .notDirectory ∨ e = .tooManyLinks ∨ e = .nameTooLong
          setStatus (if absent then 127 else 126)
          warn (fields.head?.getD [] ++ ": ".toList ++ runFaultText e)
          throw .leave

/-- Runs the first one of some paths that can be run; a file that names no interpreter is a script of
a shell. -/
def start : Nat → Process → List Bytes → List Bytes → SystemFault →
    Except SystemFault (Ending × Process)
  | 0, p, _, _, _ => .ok (.endless, p)
  | _ + 1, _, [], _, e => .error e
  | fuel + 1, p, path :: paths, fields, e =>
      let tried :=
        match execute fuel p path fields with
        | .error .badFormat =>
            execute fuel p "/bin/sh".toList ("/bin/sh".toList :: path :: fields.drop 1)
        | r => r
      match tried with
      | .ok r => .ok r
      | .error .noEntry | .error .notDirectory => start fuel p paths fields e
      | .error e => start fuel p paths fields e

/-- Runs the program at a path with its name and arguments. -/
def execute : Nat → Process → Bytes → List Bytes → Except SystemFault (Ending × Process)
  | 0, p, _, _ => .ok (.endless, p)
  | fuel + 1, p, path, fields =>
      match p.toolFor path (fields.head?.getD []) (fields.drop 1) with
      | .error e => .error e
      | .ok (t, arguments) => .ok (tool fuel t { p with arguments := arguments })

/-- Runs a tool. -/
def tool : Nat → Tool → Process → Ending × Process
  | 0, _, p => (.endless, p)
  | fuel + 1, t, p =>
      match t with
      | .cat => Tools.cat p
      | .echo => Tools.echo p
      | .head => Tools.head p
      | .sleep => Tools.sleep p
      | .succeed => (.exited 0, p)
      | .fail => (.exited 1, p)
      | .env => altered fuel p
      | .shell => shell fuel p

/-- `env`: runs a program in a changed environment, or prints that. -/
def altered : Nat → Process → Ending × Process
  | 0, p => (.endless, p)
  | fuel + 1, p =>
      match Tools.alteration p with
      | .error r => Tools.refuse 125 r p
      | .ok a =>
          match a.words with
          | [] =>
              let (ok, p) := Tools.put (Tools.environmentText a.environment) p
              (.exited (if ok then 0 else 125), p)
          | name :: _ =>
              let searchPath := (a.environment.lookup "PATH".toList).getD "/bin:/usr/bin".toList
              let paths := if name.contains '/' then [name] else Process.pathsOf searchPath name
              match start fuel { p with environment := a.environment } paths a.words .noEntry with
              | .ok r => r
              | .error e =>
                  let p := Tools.complain (Tools.quoted name ++ ": ".toList ++ e.text.toList) p
                  let absent := e = .noEntry
                  let p :=
                    if absent && name.contains ' ' then
                      Tools.complain "use -[v]S to pass options in shebang lines".toList p
                    else p
                  (.exited (if absent then 127 else 126), p)

/-- Runs a shell as a program. -/
def shell : Nat → Process → Ending × Process
  | 0, p => (.endless, p)
  | fuel + 1, p =>
      let run : Shell Unit := do
        let args := (← get).process.arguments.drop 1
        let (rest, hasCommand, _) ← setOptions true (args.length + 1) false args
        let fromInput := (← get).has 's'
        if hasCommand then
          match rest with
          | [] => raise "-c requires an argument".toList
          | text :: rest =>
              modify fun st => { st with
                name := rest.head?.getD st.name, parameters := rest.drop 1 }
              let _ ← script fuel { exits := !fromInput } text
              if fromInput then input fuel
        else
          match rest with
          | file :: parameters =>
              if fromInput then
                modify fun st => { st with parameters := rest }
                input fuel
              else
                let text ← readScript file
                modify fun st => { st with name := file, parameters := parameters }
                let _ ← lines fuel {} (Script.Reader.ofScript text) 0 true
          | [] =>
              modify fun st => st.withOption 's' true
              input fuel
      let finished : EStateM.Result Interrupt State Ending :=
        match run (.initial p) with
        | .ok _ st => conclude fuel st
        | .error (.ended e) st => .ok e st
        | .error _ st => conclude fuel st
      match finished with
      | .ok e st => (e, st.process)
      | .error (.ended e) st => (e, st.process)
      | .error _ st => (.exited (st.status % 256), st.process)

/-- Runs the script that the input is. -/
def input : Nat → Shell Unit
  | 0 => throw (.ended .endless)
  | fuel + 1 => do
      let st ← get
      let text ←
        match st.process.readAll 0 with
        | .ok (text, p) =>
            set { st with process := p }
            pure text
        | .error _ => pure []
      let _ ← lines fuel {} (Script.Reader.ofScript text) 0 true

end

/-- How many steps may stand one below the other. -/
def bound : Nat := 300000

/-- Runs the program at a path with its name and arguments. -/
def program (p : Process) (path : Bytes) (fields : List Bytes) :
    Except SystemFault (Ending × Process) :=
  execute bound p path fields

end Run

end DockerClient
