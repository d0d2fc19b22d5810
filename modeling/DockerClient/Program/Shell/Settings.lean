import DockerClient.Program.Shell.Search

/-
**Commands of a shell that set or list something.**

* `Shell.setOptions` — reads options; `Shell.setCommand`, `Shell.shiftCommand` — options and
  parameters;
* `Shell.exportCommand`, `Shell.unsetCommand`, `Shell.localCommand` — variables;
* `Shell.pushFrame`, `Shell.popFrames` — what lasts as long as a function;
* `Shell.flagsCommand` — options among parameters, one after the other;
* `Shell.aliasCommand`, `Shell.hashCommand`, `Shell.maskCommand` — other settings.
-/

set_option relaxedAutoImplicit false
set_option autoImplicit false

namespace DockerClient.Shell

/-! ### Options and parameters -/

/-- Sets an option by its letter. -/
def setOption (c : Char) (on : Bool) : Shell Unit := do
  if !(optionTable.any fun o => o.1 == c) then raise ("Illegal option -".toList ++ [c])
  modify fun st =>
    let st := st.withOption c on
    if on && c == 'V' then st.withOption 'E' false
    else if on && c == 'E' then st.withOption 'V' false
    else st

/-- Lists the options, as text or as commands. -/
def listOptions (asCommands : Bool) : Shell Unit := do
  let st ← get
  if !asCommands then print "Current option settings\n".toList
  optionTable.forM fun (c, name) =>
    if asCommands then
      print ((if st.has c then "set -o " else "set +o ").toList ++ name.toList ++ ['\n'])
    else
      print (name.toList ++ List.replicate (16 - name.length) ' '
        ++ (if st.has c then "on" else "off").toList ++ ['\n'])

/-- Sets an option by its name. -/
def setOptionNamed (name : Bytes) (on : Bool) : Shell Unit := do
  match optionTable.find? fun o => o.2.toList == name with
  | some (c, _) => modify fun st => st.withOption c on
  | none => raise ("Illegal option -o ".toList ++ name)

/-- Sets the parameters. -/
def setParameters (args : List Bytes) : Shell Unit :=
  modify fun st => { st with parameters := args, optionIndex := 1, optionOffset := none }

/-- Sets the options of a word; gives what is left of the other words, and whether a command is to
follow them. -/
def setLetters (atStart on : Bool) : Bytes → List Bytes → Shell (List Bytes × Bool)
  | [], args => pure (args, false)
  | c :: more, args => do
      if c = 'c' ∧ atStart then
        let (args, _) ← setLetters atStart on more args
        pure (args, true)
      else if c = 'l' ∧ atStart then setLetters atStart on more args
      else if c = 'o' then
        match args with
        | [] => listOptions (!on)
        | name :: _ => setOptionNamed name on
        setLetters atStart on more (args.drop 1)
      else
        setOption c on
        setLetters atStart on more args

/-- Sets the options at the beginning of some words; gives the other words, whether a command is to
follow, and whether a mark ended the options. -/
def setOptions (atStart : Bool) : Nat → Bool → List Bytes → Shell (List Bytes × Bool × Bool)
  | 0, command, args => pure (args, command, false)
  | fuel + 1, command, args => do
      match args with
      | ['-'] :: rest =>
          if !atStart then
            modify fun st => (st.withOption 'x' false).withOption 'v' false
          pure (rest, command, false)
      | ['-', '-'] :: rest => pure (rest, command, true)
      | ('-' :: letters) :: rest =>
          let (rest, c) ← setLetters atStart true letters rest
          setOptions atStart fuel (command || c) rest
      | ('+' :: letters) :: rest =>
          let (rest, c) ← setLetters atStart false letters rest
          setOptions atStart fuel (command || c) rest
      | args => pure (args, command, false)

/-- Variables in the order of their names. -/
def sortedVariables (st : State) : List Variable :=
  st.bindings.mergeSort fun a b => Bytes.le a.name b.name

/-- A variable as it is listed. -/
def Variable.text (v : Variable) : Bytes :=
  match v.value with
  | some value => v.name ++ '=' :: singleQuoted value
  | none => v.name

/-- `set`: options and parameters, or a list of the variables. -/
def setCommand (args : List Bytes) : Shell Nat := do
  if args.isEmpty then
    (sortedVariables (← get)).forM fun v =>
      if v.value.isSome then print (v.text ++ ['\n']) else pure ()
  else
    let (rest, _, marked) ← setOptions false (args.length + 1) false args
    if !rest.isEmpty || marked then setParameters rest
  pure 0

/-- `shift`: drops parameters. -/
def shiftCommand (args : List Bytes) : Shell Nat := do
  let n ← match args with
    | a :: _ => countOf a
    | [] => pure 1
  let st ← get
  if st.parameters.length < n then raise "can't shift that many".toList
  setParameters (st.parameters.drop n)
  pure 0

/-! ### Variables -/

/-- `export` and `readonly`: marks variables, or lists those with the mark. -/
def exportCommand (command : Bytes) (asReadOnly : Bool) (args : List Bytes) : Shell Nat := do
  let (options, names) ← optionsOf "p" args
  if !options.isEmpty || names.isEmpty then
    (sortedVariables (← get)).forM fun v =>
      if (if asReadOnly then v.readOnly else v.exported) then
        print (command ++ ' ' :: v.text ++ ['\n'])
      else pure ()
  else
    names.forM fun text => do
      let (name, value) := splitSetting text
      let st ← get
      match value, st.find? name with
      | none, some v =>
          set (st.putVariable
            { v with readOnly := v.readOnly || asReadOnly, exported := v.exported || !asReadOnly })
      | value, _ => setMarked name value (!asReadOnly) asReadOnly false
  pure 0

/-- `unset`: drops variables or functions. -/
def unsetCommand (args : List Bytes) : Shell Nat := do
  let (options, names) ← optionsOf "vf" args
  let functions := (options.getLast?.map (·.1)) == some 'f'
  names.forM fun name =>
    if functions then
      modify fun st => { st with functions := st.functions.filter (·.1 ≠ name) }
    else unsetVariable (splitSetting name).1
  pure 0

/-- Begins a frame. -/
def pushFrame : Shell Unit := modify fun st => { st with locals := {} :: st.locals }

/-- Makes a variable last only as long as the frame, and sets it if there is a value. -/
def makeLocal (name : Bytes) (value : Option Bytes) (exported : Bool) : Shell Unit := do
  let st ← get
  match st.locals with
  | [] => raise "not in a function".toList
  | frame :: frames =>
      let old := st.find? name
      match old with
      | none => setMarked name value exported false true
      | some v =>
          set (st.putVariable { v with lasting := true })
          if value.isSome then setMarked name value exported false true
      modify fun st =>
        { st with locals := { frame with hidden := (name, old) :: frame.hidden } :: frames }

/-- Brings a variable back. -/
def restoreVariable (name : Bytes) (old : Option Variable) : Shell Unit := do
  match old with
  | none => modify fun st => st.dropVariable name
  | some v =>
      noteChange name (v.value.getD ['1'])
      modify fun st => st.putVariable v

/-- Ends frames until so many are left. -/
def popFrames (count : Nat) : Nat → Shell Unit
  | 0 => pure ()
  | fuel + 1 => do
      let st ← get
      if st.locals.length ≤ count then pure ()
      else
        match st.locals with
        | [] => pure ()
        | frame :: frames =>
            set { st with locals := frames, options := frame.options.getD st.options }
            frame.hidden.forM fun v => restoreVariable v.1 v.2
            popFrames count fuel

/-- `local`: variables, or the options, that last as long as a function. -/
def localCommand (args : List Bytes) : Shell Nat := do
  if (← get).locals.isEmpty then raise "not in a function".toList
  args.forM fun text =>
    if text = ['-'] then
      modify fun st =>
        match st.locals with
        | frame :: frames =>
            { st with
              locals := { frame with options := some (frame.options.getD st.options) } :: frames }
        | [] => st
    else
      let (name, value) := splitSetting text
      makeLocal name value false
  pure 0

/-! ### Options among parameters -/

/-- The next option of some words with the letters after it, none at the end, and where the words go
on.  Letters may be left of the word before. -/
def nextFlag (words : List Bytes) (index : Nat) (offset : Option Nat) :
    Option (Char × Bytes) × Nat :=
  let last := words[index - 2]?.getD []
  let left : Bytes :=
    match offset with
    | some n => if index ≤ 1 ∨ last.length < n then [] else last.drop n
    | none => []
  match left with
  | c :: more => (some (c, more), index)
  | [] =>
      match words[index - 1]? with
      | some ['-', '-'] => (none, index + 1)
      | some ('-' :: c :: more) => (some (c, more), index + 1)
      | _ => (none, index)

/-- Whether a letter is among options, and whether it takes an argument. -/
def flagKind? (c : Char) : Bytes → Option Bool
  | [] => none
  | [d] => if d = c then some false else none
  | d :: ':' :: rest => if d = c then some true else flagKind? c rest
  | d :: e :: rest => if d = c then some false else flagKind? c (e :: rest)

/-- `getopts`: the next option among the parameters, or among other words. -/
def flagsCommand (args : List Bytes) : Shell Nat := do
  match args with
  | letters :: name :: others =>
      let st ← get
      let words := if others.isEmpty then st.parameters else others
      let (index, offset) :=
        if words.length + 1 < st.optionIndex then (1, none) else (st.optionIndex, st.optionOffset)
      let silent := letters.head? == some ':'
      let finish (status : Nat) (value : Char) (index : Nat) (offset : Option Nat) : Shell Nat := do
        modify fun st =>
          match st.find? "OPTIND".toList with
          | some v => st.putVariable { v with value := some (Bytes.ofNat index) }
          | none => st.putVariable ⟨"OPTIND".toList, some (Bytes.ofNat index), false, false, false⟩
        setVariable name [value]
        modify fun st => { st with optionIndex := index, optionOffset := offset }
        pure status
      let argument := "OPTARG".toList
      match nextFlag words index offset with
      | (none, index) => finish 1 '?' index none
      | (some (c, more), index) =>
          let here : Option Nat := some ((words[index - 2]?.getD []).length - more.length)
          match flagKind? c letters with
          | none =>
              if silent then setVariable argument [c]
              else
                say ("Illegal option -".toList ++ [c, '\n'])
                unsetVariable argument
              finish 0 '?' index here
          | some false =>
              setVariable argument []
              finish 0 c index here
          | some true =>
              if !more.isEmpty then
                setVariable argument more
                finish 0 c index none
              else
                match words[index - 1]? with
                | some value =>
                    setVariable argument value
                    finish 0 c (index + 1) none
                | none =>
                    if silent then
                      setVariable argument [c]
                      finish 0 ':' index none
                    else
                      say ("No arg for -".toList ++ c :: " option\n".toList)
                      unsetVariable argument
                      finish 0 '?' index none
  | _ => raise "Usage: getopts optstring var [arg...]".toList

/-! ### Other settings -/

/-- `alias`: texts that stand for commands. -/
def aliasCommand (args : List Bytes) : Shell Nat := do
  if args.isEmpty then
    let st ← get
    let all := st.aliases.mergeSort fun a b => decide (placeOf a.1 ≤ placeOf b.1)
    all.forM fun a => print (aliasText a)
    pure 0
  else
    let statuses ← args.mapM fun text => do
      let name := text.take 1 ++ (text.drop 1).takeWhile (· ≠ '=')
      let st ← get
      match (text.drop name.length).tail? with
      | some value =>
          let known := st.aliases.any (·.1 == name)
          let aliases :=
            if known then st.aliases.map fun a => if a.1 = name then (name, value) else a
            else st.aliases ++ [(name, value)]
          set { st with aliases := aliases }
          pure 0
      | none =>
          match st.aliases.lookup name with
          | some value =>
              print (aliasText (name, value))
              pure 0
          | none =>
              say ("alias: ".toList ++ text ++ " not found\n".toList)
              pure 1
    pure (if statuses.contains 1 then 1 else 0)

/-- `unalias`: drops aliases. -/
def unaliasCommand (args : List Bytes) : Shell Nat := do
  let (options, names) ← optionsOf "a" args
  if !options.isEmpty then
    modify fun st => { st with aliases := [] }
    pure 0
  else
    let statuses ← names.mapM fun name => do
      let st ← get
      if st.aliases.any (·.1 == name) then
        set { st with aliases := st.aliases.filter (·.1 ≠ name) }
        pure 0
      else
        say ("unalias: ".toList ++ name ++ " not found\n".toList)
        pure 1
    pure (if statuses.contains 1 then 1 else 0)

/-- The place of a program among those that are remembered. -/
def rememberedPlace (name : Bytes) : Nat :=
  Bytes.key name % 32768 % 31

/-- `hash`: lists the programs that are remembered, forgets them, or looks for some. -/
def hashCommand (args : List Bytes) : Shell Nat := do
  let (options, names) ← optionsOf "r" args
  if !options.isEmpty then
    modify fun st => { st with hashed := [] }
    pure 0
  else if names.isEmpty then
    let all := (← get).hashed.mergeSort fun a b =>
      decide (rememberedPlace a.1 ≤ rememberedPlace b.1)
    all.forM fun p => print (p.2 ++ ['\n'])
    pure 0
  else
    let statuses ← names.mapM fun name => do
      modify fun st => { st with hashed := st.hashed.filter (·.1 ≠ name) }
      match ← search true none name with
      | .missing e =>
          warn (name ++ ": ".toList ++ runFaultText e)
          pure 1
      | _ => pure 0
    pure (if statuses.contains 1 then 1 else 0)

/-- The rights that are not given, in octal. -/
def maskText (mask : Nat) : Bytes :=
  let shown := Numeral.inBase 8 mask
  List.replicate (4 - shown.length) '0' ++ shown

/-- The rights that are given, by letters. -/
def rightsText (mask : Nat) : Bytes :=
  let part (who : Char) (shift : Nat) : Bytes :=
    let given (bit : Nat) : Bool := (mask / (shift * bit)) % 2 == 0
    [who, '='] ++ (if given 4 then ['r'] else []) ++ (if given 2 then ['w'] else [])
      ++ (if given 1 then ['x'] else [])
  [','].intercalate [part 'u' 64, part 'g' 8, part 'o' 1]

/-- The rights that a change by letters leaves. -/
def changedRights (rights : Nat) : Nat → Nat → Bytes → Option Nat
  | 0, _, _ => none
  | fuel + 1, changed, s =>
      let who := s.takeWhile fun c => ['a', 'u', 'g', 'o'].contains c
      let weight (c : Char) : Nat :=
        if c = 'a' then 73 else if c = 'u' then 64 else if c = 'g' then 8 else 1
      let positions := who.foldl (fun n c => n ||| weight c) 0
      changes rights fuel (if positions = 0 then 73 else positions) changed (s.drop who.length)
where
  /-- The rights after changes for some users. -/
  changes (rights : Nat) : Nat → Nat → Nat → Bytes → Option Nat
    | 0, _, _, _ => none
    | fuel + 1, positions, changed, s =>
        match s with
        | op :: rest =>
            if ['=', '+', '-'].contains op then
              let what := rest.takeWhile fun c => "rwxugoXs".toList.contains c
              let bit (c : Char) : Nat :=
                match c with
                | 'r' => 4
                | 'w' => 2
                | 'x' => 1
                | 'u' => rights / 64
                | 'g' => rights / 8
                | 'o' => rights
                | 'X' => if rights &&& 73 = 0 then 0 else 1
                | _ => 0
              let value := (what.foldl (fun n c => n ||| bit c) 0 % 8) * positions
              let changed :=
                if op = '-' then changed &&& (511 - value)
                else if op = '+' then changed ||| value
                else value ||| (changed &&& (511 - positions * 7))
              match rest.drop what.length with
              | [] => some changed
              | ',' :: after => changedRights rights fuel changed after
              | after => changes rights fuel positions changed after
            else none
        | [] => none

/-- `umask`: shows or sets the rights that files are not given. -/
def maskCommand (args : List Bytes) : Shell Nat := do
  let (options, rest) ← optionsOf "S" args
  let mask := (← get).process.mask
  match rest with
  | [] =>
      print ((if options.isEmpty then maskText mask else rightsText mask) ++ ['\n'])
      pure 0
  | text :: _ =>
      let set (n : Nat) : Shell Nat := do
        onProcess fun p => { p with mask := n % 512 }
        pure 0
      if (text.head?.map Script.isDigit).getD false then
        let (n, _, after) := Numeral.digits 8 0 0 text
        if after.isEmpty then set n else raise ("Illegal number: ".toList ++ text)
      else
        match changedRights (511 - mask) (2 * text.length + 2) (511 - mask) text with
        | some rights => set (511 - rights)
        | none => raise ("Illegal mode: ".toList ++ text)

end DockerClient.Shell
