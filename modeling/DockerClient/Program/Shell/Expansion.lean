import DockerClient.Program.Arithmetic
import DockerClient.Program.Shell.Fields
import DockerClient.Program.Shell.Paths
import DockerClient.Program.Shell.State

/-
**What words stand for.**

Parameters, sums and the output of commands take the place of the pieces that name them.  How commands
are run is left open: `Shell.Substitute` gives the output of one.

* `Shell.Mode` — what a word is expanded for;
* `Shell.expand` — the cells that a word becomes;
* `Shell.fieldsOf`, `Shell.textOf`, `Shell.settingOf`, `Shell.patternOf` — the fields, the text, the
  value of a variable and the pattern that a word stands for.
-/

set_option relaxedAutoImplicit false
set_option autoImplicit false

namespace DockerClient.Shell

/-- How the output of a command is found. -/
abbrev Substitute := Script.Command → Shell Bytes

/-- What a word is expanded for: fields or a pattern, for which it keeps its marks, or a text; whether
a tilde at its beginning, or after colons and the first sign of equality, is a home directory; whether
it is in quotes, is a piece of a parameter, or is not wanted at all. -/
structure Mode where
  fields : Bool := false
  pattern : Bool := false
  tilde : Bool := false
  colons : Bool := false
  afterEquals : Bool := false
  quoted : Bool := false
  word : Bool := false
  idle : Bool := false

/-- Whether marks are kept. -/
def Mode.marks (m : Mode) : Bool := m.fields || m.pattern

/-! ### Texts -/

/-- Adds a text; in quotes, what has a meaning in patterns is escaped. -/
def addText (m : Mode) (text : Bytes) (b : Buffer) : Buffer :=
  if m.idle then b
  else
    { b with cells := text.foldl (fun cells c =>
        cells.push (if m.marks && m.quoted && (c == '\\' || Script.patternChars.contains c)
          then .escaped c else .plain c)) b.cells }

/-- Ends a run of literal characters, which separators may divide in a piece of a parameter. -/
def endRun (m : Mode) (inQuotes : Bool) (run : Option Nat) (b : Buffer) : Buffer :=
  match run with
  | some start => if m.word && !m.quoted && !inQuotes && decide (start < b.size) then b.note start false else b
  | none => b

/-- The name after a tilde, up to a separator, and what follows it; none if part of it is quoted or
stands for something else. -/
def tildeName (colons : Bool) : List Script.Piece → Option (Bytes × List Script.Piece)
  | [] => some ([], [])
  | .char c :: rest =>
      if c = '/' ∨ (c = ':' ∧ colons) then some ([], .char c :: rest)
      else (tildeName colons rest).map fun r => (c :: r.1, r.2)
  | _ => none

/-- The home directory of a user. -/
def homeOf (st : State) (name : Bytes) : Option Bytes :=
  if name.isEmpty then st.value? "HOME".toList
  else if name = "root".toList then some "/root".toList
  else none

/-! ### Parameters -/

/-- The parameters as one text: with boundaries that stay, or with a separator. -/
def joinedParameters (m : Mode) (all : Bool) (st : State) : Bytes :=
  let first : Option Char := (st.separators).head?
  if all && m.quoted && m.fields then ['\x00'].intercalate st.parameters
  else
    match first, m.fields && !m.quoted with
    | some c, _ => [c].intercalate st.parameters
    | none, true => ['\x00'].intercalate st.parameters
    | none, false => st.parameters.flatten

/-- The value of a parameter. -/
def parameter? (m : Mode) (st : State) (name : Bytes) : Option Bytes :=
  match name with
  | ['$'] => some (Bytes.ofNat st.root)
  | ['?'] => some (Bytes.ofNat st.status)
  | ['#'] => some (Bytes.ofNat st.parameters.length)
  | ['!'] => st.lastAside.map Bytes.ofNat
  | ['-'] => some st.optionLetters
  | ['@'] => some (joinedParameters m true st)
  | ['*'] => some (joinedParameters m false st)
  | c :: _ =>
      if Script.isDigit c then
        let n := (Numeral.digits 10 0 0 name).1
        if n = 0 then some st.name else st.parameters[n - 1]?
      else st.value? name
  | [] => st.value? name

/-- Notes the region of a parameter. -/
def noteParameter (m : Mode) (name : Bytes) (start : Nat) (b : Buffer) : Shell Buffer := do
  if m.quoted then
    if name.head? == some '@' && !(← get).parameters.isEmpty then pure (b.note start true) else pure b
  else pure (b.note start false)

/-- The tails of a list, the longest first. -/
def tails {α : Type} : List α → List (List α)
  | [] => [[]]
  | a :: l => (a :: l) :: tails l

/-- The cells that are left when what has the form of a pattern is dropped from one end. -/
def trim (use : Script.Use) (pattern : Bytes) (cells : List Cell) : List Cell :=
  let text := plainText cells
  let upTo (s : Bytes) : Bytes := s.takeWhile (· ≠ '\x00')
  let head (n : Nat) : Bool := Pattern.admits pattern (upTo (text.take n))
  let tail (n : Nat) : Bool := Pattern.admits pattern (upTo (text.drop n))
  let forward := List.range ((upTo text).length + 1)
  let backward := (List.range (text.length + 1)).reverse
  match use with
  | .dropFront false => ((forward.find? head).map cells.drop).getD cells
  | .dropFront true => ((backward.find? head).map cells.drop).getD cells
  | .dropBack false => ((backward.find? tail).map cells.take).getD cells
  | .dropBack true => ((forward.find? tail).map cells.take).getD cells
  | _ => cells

/-- Complains about a parameter that is not set. -/
def complainUnset {α : Type} (name : Bytes) (orEmpty : Bool) (message : Option Bytes) : Shell α :=
  raise (name ++ ": ".toList ++
    match message with
    | some text => text
    | none => "parameter not set".toList ++ (if orEmpty then " or null".toList else []))

/-! ### Sums -/

/-- The value of an expression. -/
def calculate (text : Bytes) : Shell Int := do
  let st ← get
  let vars : Arithmetic.Variables :=
    { value? := st.value?
      isReadOnly := fun name => ((st.find? name).map (·.readOnly)).getD false }
  let (result, changes) := Arithmetic.value vars text
  changes.reverse.forM fun c => setVariable c.1 (Bytes.ofInt c.2)
  let complain (what : String) : Shell Int :=
    raise ("arithmetic expression: ".toList ++ what.toList ++ ": \"".toList ++ text ++ ['"'])
  match result with
  | .ok n => pure n
  | .error .divisionByZero => complain "division by zero"
  | .error (.expected what) => complain ("expecting " ++ what)
  | .error (.badNumber s) => raise ("Illegal number: ".toList ++ s)
  | .error (.readOnly name) => raise (name ++ ": is read only".toList)
  | .error .trap => throw (.ended (.killed 8))

/-! ### Words -/

mutual

/-- Expands pieces.  A run of literal characters may have begun. -/
def expandFrom (run : Substitute) : Nat → Mode → Bool → Option Nat → List Script.Piece → Buffer →
    Shell Buffer
  | 0, _, _, _, _, _ => throw (.ended .endless)
  | _ + 1, m, inQuotes, began, [], b => pure (endRun m inQuotes began b)
  | fuel + 1, m, inQuotes, began, piece :: rest, b => do
      let inner := { m with tilde := false, quoted := m.quoted || inQuotes }
      match piece with
      | .char c =>
          let began := began.getD b.size
          let b := if m.idle then b else b.push (.plain c)
          if m.colons && (c == ':' || (c == '=' && !m.afterEquals)) then
            let m := if c == '=' then { m with afterEquals := true } else m
            expandTilde run fuel m inQuotes rest (endRun m inQuotes (some began) b)
          else expandFrom run fuel m inQuotes (some began) rest b
      | .escaped c =>
          let b := endRun m inQuotes began b
          let b := if m.idle then b else b.push (if m.marks then .escaped c else .plain c)
          expandFrom run fuel m inQuotes none rest b
      | .quote =>
          let b := endRun m inQuotes began b
          match inQuotes, rest with
          | false, .param ['@'] .value false [] :: .quote :: more =>
              let b ← expandParam run fuel { inner with quoted := true } ['@'] .value false [] b
              expandFrom run fuel m inQuotes none more b
          | _, _ =>
              let b := if m.marks && !m.idle then b.push .quote else b
              expandFrom run fuel m (!inQuotes) none rest b
      | .param name use orEmpty word =>
          let b ← expandParam run fuel inner name use orEmpty word (endRun m inQuotes began b)
          expandFrom run fuel m inQuotes none rest b
      | .output c =>
          let b := endRun m inQuotes began b
          if m.idle then expandFrom run fuel m inQuotes none rest b
          else
            let text := ((← run c).filter (· ≠ '\x00')).reverse.dropWhile (· = '\n')
            let start := b.size
            let b := addText inner text.reverse b
            let b := if inner.quoted then b else b.note start false
            expandFrom run fuel m inQuotes none rest b
      | .sum expression =>
          let b := endRun m inQuotes began b
          if m.idle then expandFrom run fuel m inQuotes none rest b
          else
            let text ← expandFrom run fuel {} false none expression {}
            let n ← calculate (plainText text.cells.toList)
            let start := b.size
            let b := addText inner (Bytes.ofInt n) b
            let b := if inner.quoted then b else b.note start false
            expandFrom run fuel m inQuotes none rest b

/-- Expands pieces that a tilde for a home directory may begin. -/
def expandTilde (run : Substitute) : Nat → Mode → Bool → List Script.Piece → Buffer → Shell Buffer
  | 0, _, _, _, _ => throw (.ended .endless)
  | fuel + 1, m, inQuotes, pieces, b => do
      match pieces with
      | .char '~' :: rest =>
          match tildeName m.colons rest with
          | some (name, after) =>
              match homeOf (← get) name with
              | some home =>
                  expandFrom run fuel m inQuotes none after
                    (addText { m with quoted := true } home b)
              | none => expandFrom run fuel m inQuotes none pieces b
          | none => expandFrom run fuel m inQuotes none pieces b
      | _ => expandFrom run fuel m inQuotes none pieces b

/-- Expands a parameter. -/
def expandParam (run : Substitute) : Nat → Mode → Bytes → Script.Use → Bool → List Script.Piece →
    Buffer → Shell Buffer
  | 0, _, _, _, _, _, _ => throw (.ended .endless)
  | fuel + 1, m, name, use, orEmpty, word, b => do
      let st ← get
      let start := b.size
      let value? := parameter? m st name
      let value := value?.getD []
      let isMissing := value?.isNone || (orEmpty && value.isEmpty)
      let refuseUnset : Shell Unit := do
        if value?.isNone && !m.idle && st.has 'u' then complainUnset name false none
      let filled := addText m value b
      if m.idle then pure b
      else
        match use with
        | .unknown => raise "Bad substitution".toList
        | .value =>
            refuseUnset
            noteParameter m name start filled
        | .orElse =>
            if isMissing then expandTilde run fuel { m with word := true } false word b
            else noteParameter m name start filled
        | .ifSet =>
            if isMissing then noteParameter m name start b
            else expandTilde run fuel { m with word := true } false word b
        | .orFail =>
            if isMissing then
              let text ← expandTilde run fuel {} false word {}
              complainUnset name orEmpty
                (if word.isEmpty then none else some (plainText text.cells.toList))
            else noteParameter m name start filled
        | .orAssign =>
            if isMissing then
              let text ← expandTilde run fuel {} false word {}
              setVariable name (plainText text.cells.toList)
              noteParameter m name start
                (addText m ((parameter? m (← get) name).getD []) b)
            else noteParameter m name start filled
        | .length =>
            refuseUnset
            noteParameter m name start (addText m (Bytes.ofNat value.length) b)
        | use =>
            refuseUnset
            if value?.isNone then pure b
            else
              let pattern ← expandTilde run fuel { pattern := true } false word {}
              let kept := trim use (patternText pattern.cells.toList) (filled.after start)
              noteParameter m name start
                { b with cells := b.cells ++ kept.toArray }

end

/-- How deep words may be nested, and how many pieces they may have. -/
def wordFuel : Nat := 1000000

/-- The cells that a word becomes. -/
def expand (run : Substitute) (m : Mode) (w : Script.Word) : Shell Buffer :=
  if m.tilde then expandTilde run wordFuel { m with tilde := false } false w {}
  else expandFrom run wordFuel m false none w {}

/-- The paths that a field stands for, or its text. -/
def pathsOf (st : State) (cells : List Cell) : List Bytes :=
  let text := plainText cells
  let special := cells.any fun c =>
    match c with
    | .plain c | .escaped c => Pattern.hasSpecial [c]
    | .quote => false
  if st.has 'f' || !special then [text]
  else
    match paths st.process (patternText cells) with
    | [] => [text]
    | found => found

/-- The fields that a word stands for. -/
def fieldsOf (run : Substitute) (w : Script.Word) : Shell (List Bytes) := do
  let b ← expand run { fields := true, tilde := true } w
  let st ← get
  pure ((b.fields st.separators).flatMap (pathsOf st))

/-- The text that a word stands for. -/
def textOf (run : Substitute) (w : Script.Word) : Shell Bytes := do
  pure (plainText (← expand run { tilde := true } w).cells.toList)

/-- The text that a setting of a variable stands for. -/
def settingOf (run : Substitute) (w : Script.Word) : Shell Bytes := do
  pure (plainText (← expand run { colons := true } w).cells.toList)

/-- The pattern that a word stands for. -/
def patternOf (run : Substitute) (w : Script.Word) : Shell Bytes := do
  pure (patternText (← expand run { tilde := true, pattern := true } w).cells.toList)

/-- The text that stands below a command. -/
def belowOf (run : Substitute) (w : Script.Word) : Shell Bytes := do
  pure (plainText (← expand run { quoted := true } w).cells.toList)

end DockerClient.Shell
