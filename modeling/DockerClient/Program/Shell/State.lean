import DockerClient.Program.Process
import DockerClient.Program.Script.Grammar

/-
**The state of a shell.**

* `Shell.Variable`, `Shell.State` — variables, functions, options, traps and streams of a shell;
* `Shell`, `Shell.Interrupt` — steps of a shell, and how it leaves them early;
* `Shell.warn`, `Shell.raise` — complaints, without and with an end of the command;
* `Shell.setVariable`, `Shell.unsetVariable`, `Shell.State.exportedVariables` — variables;
* `Shell.countOf`, `Shell.optionsOf` — numbers and options among arguments.
-/

set_option relaxedAutoImplicit false
set_option autoImplicit false

namespace DockerClient

namespace Shell

/-- A variable; a lasting one stays when it is unset. -/
structure Variable where
  name : Bytes
  value : Option Bytes
  exported : Bool := false
  readOnly : Bool := false
  lasting : Bool := false
deriving DecidableEq, Repr

/-- What is skipped up to its end: nothing, loops, or a function, with or without a status of its
own. -/
inductive Skip where
  | nothing
  | leave (loops : Nat)
  | again (loops : Nat)
  | function (ownStatus : Bool)
deriving DecidableEq, Repr

/-- Commands that run aside, or have run: the number of the job, those of its processes, its task,
how it ends and when, and whether that has been noticed, and asked for. -/
structure Job where
  index : Nat
  processes : List Nat
  task : Nat
  ending : Ending
  finish : Nat
  noticed : Bool := false
  awaited : Bool := false

/-- What is brought back at the end of a function: variables, and options if they are to be. -/
structure Frame where
  hidden : List (Bytes × Option Variable) := []
  options : Option (List Char) := none

/-- The state of a shell. -/
structure State where
  process : Process
  directory : Bytes := ['/']
  deaf : List Nat := []
  name : Bytes
  root : Nat
  parameters : List Bytes := []
  bindings : List Variable := []
  functions : List (Bytes × Nat × Script.Command) := []
  aliases : List (Bytes × Bytes) := []
  options : List Char := []
  traps : List (Nat × Bytes) := []
  arrived : List Nat := []
  status : Nat := 0
  statusBefore : Option Nat := none
  substituted : Nat := 0
  lastAside : Option Nat := none
  jobs : List Job := []
  label : Option Bytes := none
  line : Nat := 0
  lastLine : Nat := 0
  loops : Nat := 0
  skip : Skip := .nothing
  optionIndex : Nat := 1
  optionOffset : Option Nat := none
  locals : List Frame := []
  calls : Nat := 0
  depth : Nat := 0
  texts : List (Nat × Script.Word) := []
  nextText : Nat := 0
  pending : Bytes := []
  hashed : List (Bytes × Bytes) := []

/-- How a shell leaves a command early: by a fault, because it ends, or because the process has
ended. -/
inductive Interrupt where
  | fault
  | leave
  | ended (e : Ending)
deriving DecidableEq, Repr

end Shell

/-- Steps of a shell. -/
abbrev Shell := EStateM Shell.Interrupt Shell.State

namespace Shell

/-! ### Messages -/

/-- Changes the process. -/
def onProcess (f : Process → Process) : Shell Unit :=
  modify fun st => { st with process := f st.process }

/-- Writes to the stream for messages. -/
def say (text : Bytes) : Shell Unit := onProcess fun p => p.say text

/-- Complains about the present line. -/
def warn (text : Bytes) : Shell Unit := do
  let st ← get
  let label :=
    match st.label with
    | some l => l ++ [':', ' ']
    | none => []
  say (st.name ++ [':', ' '] ++ Bytes.ofNat st.line ++ [':', ' '] ++ label ++ text ++ ['\n'])

/-- Complains, and ends the command with a status. -/
def failWith {α : Type} (status : Nat) (text : Bytes) : Shell α := do
  modify fun st => { st with status := status }
  warn text
  throw .fault

/-- Complains, and ends the command. -/
def raise {α : Type} (text : Bytes) : Shell α := failWith 2 text

/-- Prints to the output; it is written when the command has ended. -/
def print (text : Bytes) : Shell Unit :=
  modify fun st => { st with pending := text.reverseAux st.pending }

/-- Writes what was printed; false if that fails. -/
def flush : Shell Bool := do
  let st ← get
  if st.pending.isEmpty then pure true
  else
    match st.process.write 1 st.pending.reverse with
    | .ok p =>
        set { st with process := p, pending := [] }
        pure true
    | .error _ =>
        set { st with pending := [] }
        pure false

/-- A quoted text, which a shell reads as the text itself. -/
def singleQuoted (s : Bytes) : Bytes :=
  let rec pieces : Nat → Bytes → Bytes
    | 0, _ => []
    | fuel + 1, s =>
        let plain := s.takeWhile (· ≠ '\x27')
        let rest := s.drop plain.length
        let quotes := rest.takeWhile (· = '\x27')
        let here := '\x27' :: plain ++ ['\x27']
        if quotes.isEmpty then here
        else
          let after := rest.drop quotes.length
          let quoted := '"' :: quotes ++ ['"']
          here ++ quoted ++ (if after.isEmpty then [] else pieces fuel after)
  pieces (s.length + 1) s

/-! ### Options -/

/-- The options by letter and name, in their order. -/
def optionTable : List (Char × String) :=
  [('e', "errexit"), ('f', "noglob"), ('I', "ignoreeof"), ('i', "interactive"), ('m', "monitor"),
   ('n', "noexec"), ('s', "stdin"), ('x', "xtrace"), ('v', "verbose"), ('V', "vi"), ('E', "emacs"),
   ('C', "noclobber"), ('a', "allexport"), ('b', "notify"), ('u', "nounset"), ('p', "privileged"),
   ('\x01', "nolog"), ('\x02', "debug")]

/-- Whether an option is set. -/
def State.has (st : State) (option : Char) : Bool := st.options.contains option

/-- The state with an option set or not. -/
def State.withOption (st : State) (option : Char) (on : Bool) : State :=
  let others := st.options.filter (· ≠ option)
  { st with options := if on then option :: others else others }

/-! ### Variables -/

/-- A variable by its name. -/
def State.find? (st : State) (name : Bytes) : Option Variable :=
  st.bindings.find? (·.name == name)

/-- The value of a variable. -/
def State.value? (st : State) (name : Bytes) : Option Bytes := (st.find? name).bind (·.value)

/-- The characters that separate fields. -/
def State.separators (st : State) : Bytes := (st.value? "IFS".toList).getD [' ', '\t', '\n']

/-- The search path. -/
def State.searchPath (st : State) : Bytes := (st.value? "PATH".toList).getD []

/-- The state with a variable put in its place. -/
def State.putVariable (st : State) (v : Variable) : State :=
  if (st.find? v.name).isSome then
    { st with bindings := st.bindings.map fun w => if w.name == v.name then v else w }
  else { st with bindings := st.bindings ++ [v] }

/-- The state without a variable. -/
def State.dropVariable (st : State) (name : Bytes) : State :=
  { st with bindings := st.bindings.filter (·.name ≠ name) }

/-- What follows from a new value of a variable. -/
def noteChange (name value : Bytes) : Shell Unit := do
  if name = "PATH".toList then modify fun st => { st with hashed := [] }
  else if name = "OPTIND".toList then
    match Numeral.count? value with
    | some n => modify fun st => { st with optionIndex := max n 1, optionOffset := none }
    | none => raise ("Illegal number: ".toList ++ value)

/-- Sets a variable, or unsets it, and marks it in addition to its marks so far. -/
def setMarked (name : Bytes) (value : Option Bytes) (exported readOnly lasting : Bool) :
    Shell Unit := do
  if !Script.isName name then
    raise (name.takeWhile (· ≠ '=') ++ ": bad variable name".toList)
  let st ← get
  let exported := exported || st.has 'a'
  match st.find? name with
  | some old =>
      if old.readOnly then
        raise (name ++ ": is read only".toList)
      noteChange name (value.getD ['1'])
      let st ← get
      if value.isNone && !exported && !readOnly && !lasting && !old.lasting then
        set (st.dropVariable name)
      else
        set (st.putVariable
          { old with value := value, exported := old.exported || exported,
                     readOnly := readOnly, lasting := old.lasting || lasting })
  | none =>
      if value.isNone && !exported && !readOnly && !lasting then pure ()
      else set (st.putVariable ⟨name, value, exported, readOnly, lasting⟩)

/-- Sets a variable. -/
def setVariable (name value : Bytes) : Shell Unit := setMarked name (some value) false false false

/-- Unsets a variable. -/
def unsetVariable (name : Bytes) : Shell Unit := setMarked name none false false false

/-- The name and the value in a text of the form `name=value`. -/
def splitSetting (s : Bytes) : Bytes × Option Bytes :=
  let name := s.takeWhile (· ≠ '=')
  (name, (s.drop name.length).tail?)

/-- The place of a variable among those that programs inherit. -/
def placeOf (name : Bytes) : Nat := Bytes.key name % 39

/-- The variables that programs inherit, in the order in which they do. -/
def State.exportedVariables (st : State) : List (Bytes × Bytes) :=
  let all := st.bindings.filterMap fun v =>
    if v.exported then v.value.map fun value => (placeOf v.name, v.name, value) else none
  (all.mergeSort fun a b => decide (a.1 ≤ b.1)).map (·.2)

/-! ### Parameters -/

/-- The letters of the options that are set. -/
def State.optionLetters (st : State) : Bytes :=
  (optionTable.map (·.1)).reverse.filter fun c => st.has c && decide (' ' < c)

/-- A count that an argument is. -/
def countOf (s : Bytes) : Shell Nat :=
  match Numeral.count? s with
  | some n => pure n
  | none => raise ("Illegal number: ".toList ++ s)

/-- The options at the beginning of arguments, each with its own argument if it takes one, and the
arguments after them.  A colon follows the letters that take an argument. -/
def optionsWithin (letters : List Char) :
    Nat → List (Char × Bytes) → Bytes → List Bytes → Shell (List (Char × Bytes) × List Bytes)
  | 0, found, _, args => pure (found.reverse, args)
  | fuel + 1, found, [], args =>
      match args with
      | ['-', '-'] :: rest => pure (found.reverse, rest)
      | ('-' :: c :: more) :: rest => optionsWithin letters fuel found (c :: more) rest
      | args => pure (found.reverse, args)
  | fuel + 1, found, c :: more, args =>
      match letters.dropWhile (· ≠ c) with
      | [] => raise ("Illegal option -".toList ++ [c])
      | _ :: ':' :: _ =>
          if !more.isEmpty then optionsWithin letters fuel ((c, more) :: found) [] args
          else
            match args with
            | a :: rest => optionsWithin letters fuel ((c, a) :: found) [] rest
            | [] => raise ("No arg for -".toList ++ c :: " option".toList)
      | _ => optionsWithin letters fuel ((c, []) :: found) more args

/-- The options at the beginning of arguments, and the arguments after them. -/
def optionsOf (letters : String) (args : List Bytes) : Shell (List (Char × Bytes) × List Bytes) :=
  optionsWithin letters.toList (args.foldl (fun n a => n + a.length + 2) 2) [] [] args

end Shell

end DockerClient
