import DockerClient.Program.Script.Reader

/-
**Reading a word, letter by letter.**

Quotes, substitutions and sums nest: each one opens a layer in which characters have other meanings.

* `Script.Layer`, `Script.Draft` — the open layers, and the word so far;
* `Script.Meaning`, `Script.Manner.meaning` — what a character means in a layer;
* `Script.Item`, `Script.nest` — the letters of a word in a row, and as a tree;
* `Script.lettersFrom` — reads a word, or a text below a command up to its mark.
-/

set_option relaxedAutoImplicit false
set_option autoImplicit false

namespace DockerClient.Script

/-! ### Layers -/

/-- How characters are read: outside of quotes, in quotes of either kind, or in a sum. -/
inductive Manner where
  | bare
  | double
  | single
  | sum
deriving DecidableEq, Repr

/-- What a character means. -/
inductive Meaning where
  | letter
  | marked
  | newline
  | backslash
  | singleQuote
  | doubleQuote
  | endQuote
  | dollar
  | endParam
  | backquote
  | opening
  | closing
  | stop
  | eof
deriving DecidableEq, Repr

/-- The characters that have a meaning in patterns, paths and settings. -/
def patternChars : List Char := ['!', '*', '?', '[', '=', '~', ':', '/', '-', ']']

/-- The characters that end a word. -/
def stops : List Char := [' ', '\t', '<', '>', '(', ')', ';', '&', '|']

/-- What a character means in a manner of reading. -/
def Manner.meaning (m : Manner) : Option Char → Meaning
  | none => .eof
  | some c =>
      if c = '\n' then .newline
      else if m = .single then
        if c = '\x27' then .endQuote
        else if c = '\\' ∨ patternChars.contains c then .marked
        else .letter
      else if c = '\\' then .backslash
      else if c = '$' then .dollar
      else if c = '\x60' then .backquote
      else if c = '}' then .endParam
      else
        match m with
        | .bare =>
            if c = '\x27' then .singleQuote
            else if c = '"' then .doubleQuote
            else if stops.contains c then .stop
            else .letter
        | .double =>
            if c = '"' then .endQuote
            else if patternChars.contains c then .marked
            else .letter
        | _ =>
            if c = '(' then .opening
            else if c = ')' then .closing
            else .letter

/-- A layer of a word: its manner of reading, whether it is in quotes, how many parameters and
parentheses are open in it, how many of the parameters are in quotes, whether there are quotes inside
of them, and whether it was opened by a parameter. -/
structure Layer where
  manner : Manner
  inQuotes : Bool := false
  params : Nat := 0
  parens : Nat := 0
  quotedParams : Nat := 0
  innerQuotes : Bool := false
  ofParam : Bool := false

/-! ### Letters -/

/-- A letter of a word; what it opens goes on to the next `close`. -/
inductive Item where
  | char (c : Char)
  | escaped (c : Char)
  | quote
  | param (name : Bytes)
  | openParam (name : Bytes) (use : Use) (orEmpty : Bool)
  | output (command : Command)
  | openSum
  | close

/-- A piece that is open, with the pieces before it, the last one first. -/
structure Frame where
  build : List Piece → Piece
  before : List Piece

/-- The tree of letters in a row.  `done` holds the pieces of the innermost open one, the last one
first. -/
def nestFrom : List Frame → List Piece → List Item → Word
  | [], done, [] => done.reverse
  | f :: frames, done, [] => nestFrom frames (f.build done.reverse :: f.before) []
  | frames, done, .char c :: rest => nestFrom frames (.char c :: done) rest
  | frames, done, .escaped c :: rest => nestFrom frames (.escaped c :: done) rest
  | frames, done, .quote :: rest => nestFrom frames (.quote :: done) rest
  | frames, done, .param name :: rest =>
      nestFrom frames (.param name .value false [] :: done) rest
  | frames, done, .output c :: rest => nestFrom frames (.output c :: done) rest
  | frames, done, .openParam name use orEmpty :: rest =>
      nestFrom (⟨.param name use orEmpty, done⟩ :: frames) [] rest
  | frames, done, .openSum :: rest => nestFrom (⟨.sum, done⟩ :: frames) [] rest
  | f :: frames, done, .close :: rest => nestFrom frames (f.build done.reverse :: f.before) rest
  | [], done, .close :: _ => done.reverse
termination_by frames _ items => (items.length, frames.length)

/-- The tree of letters in a row. -/
def nest (items : List Item) : Word := nestFrom [] [] items

/-- A word that is being read. -/
structure Draft where
  layer : Layer
  outer : List Layer := []
  items : List Item := []
  quoted : Bool := false

namespace Draft

/-- Adds a letter. -/
def add (d : Draft) (item : Item) : Draft := { d with items := item :: d.items }

/-- Adds a character as it is. -/
def addChar (d : Draft) (c : Char) : Draft := d.add (.char c)

/-- Opens a layer. -/
def push (d : Draft) (l : Layer) : Draft := { d with layer := l, outer := d.layer :: d.outer }

/-- Closes the innermost layer. -/
def pop (d : Draft) : Draft :=
  match d.outer with
  | l :: more => { d with layer := l, outer := more }
  | [] => d

/-- Notes that quotes begin or end inside of a parameter. -/
def toggleInner (d : Draft) : Draft :=
  if d.layer.params = 0 then d
  else { d with layer := { d.layer with innerQuotes := !d.layer.innerQuotes } }

end Draft

/-! ### Parameters -/

/-- The parameters that are named by a sign. -/
def isSpecial (c : Char) : Bool := ['@', '*', '#', '?', '-', '$', '!'].contains c || isDigit c

/-- The characters of a kind that come next. -/
def charsWhile (p : Char → Bool) : Nat → Bytes → Option Char → Parser (Bytes × Option Char)
  | 0, s, c => pure (s.reverse, c)
  | fuel + 1, s, c =>
      match c with
      | some d =>
          if p d then do charsWhile p fuel (d :: s) (← nextChar) else pure (s.reverse, c)
      | none => pure (s.reverse, none)

/-- The name of a parameter from its first character on, none if there is no name, and the character
after it.  `braced` tells whether a number may have several digits. -/
def paramName (braced : Bool) (c : Option Char) : Parser (Option Bytes × Option Char) := do
  let fuel := (← get).fuel
  match c with
  | some d =>
      if isNameStart d then
        let (name, c) ← charsWhile isNameChar fuel [] c
        pure (some name, c)
      else if isDigit d then
        if braced then
          let (name, c) ← charsWhile isDigit fuel [] c
          pure (some name, c)
        else pure (some [d], ← nextChar)
      else if d = '}' then pure (none, c)
      else if isSpecial d then pure (some [d], ← nextChar)
      else pure (none, ← nextChar)
  | none => pure (none, none)

/-- The use that follows the name of a parameter, whether the empty value counts as none, and whether
the next character belongs to it. -/
def useOf (c : Option Char) : Parser (Use × Bool) := do
  match c with
  | some ':' =>
      let d ← nextChar
      match d with
      | some '-' => pure (.orElse, true)
      | some '+' => pure (.ifSet, true)
      | some '?' => pure (.orFail, true)
      | some '=' => pure (.orAssign, true)
      | some '}' => pure (.value, true)
      | _ => pure (.unknown, true)
  | some '-' => pure (.orElse, false)
  | some '+' => pure (.ifSet, false)
  | some '?' => pure (.orFail, false)
  | some '=' => pure (.orAssign, false)
  | some '}' => pure (.value, false)
  | some '%' => pure (.dropBack (← accept '%'), false)
  | some '#' => pure (.dropFront (← accept '#'), false)
  | _ => pure (.unknown, false)

/-- Adds a parameter to a word, and opens what belongs to it. -/
def addParam (d : Draft) (name : Bytes) (use : Use) (orEmpty : Bool) : Draft :=
  if use = .value ∧ !orEmpty then d.add (.param name)
  else
    let manner : Manner :=
      match use with
      | .dropFront _ | .dropBack _ => .bare
      | _ => d.layer.manner
    let manner := if manner = .sum then .double else manner
    let d :=
      if manner ≠ d.layer.manner ∨ d.layer.innerQuotes then
        d.push { manner := manner, inQuotes := manner != .bare, ofParam := true }
      else d
    let l := d.layer
    { d with layer := { l with
        params := l.params + 1,
        quotedParams := if l.inQuotes then l.quotedParams + 1 else l.quotedParams } }.add
      (.openParam name use orEmpty)

/-- Reads a parameter in braces. -/
def bracedParam (d : Draft) : Parser Draft := do
  let c ← nextChar
  match c with
  | some '#' =>
      let e ← nextChar
      let isLength :=
        match e with
        | some e => isNameStart e || isDigit e
        | none => false
      if isLength then
        let (name, e) ← paramName true e
        putBack e
        pure (addParam d (name.getD []) (if e = some '}' then .length else .unknown) false)
      else
        let f ← nextChar
        if e ≠ some '}' ∧ f = some '}' then
          putBack f
          match e with
          | some e =>
              if isSpecial e then pure (addParam d [e] .length false)
              else pure (addParam d [] .unknown false)
          | none => pure (addParam d [] .unknown false)
        else
          putBack f
          finish ['#'] e
  | _ =>
      let (name, c) ← paramName true c
      match name with
      | some name => finish name c
      | none =>
          putBack c
          pure (addParam d [] .unknown false)
where
  /-- Reads what is done with a parameter. -/
  finish (name : Bytes) (c : Option Char) : Parser Draft := do
    let (use, orEmpty) ← useOf c
    pure (addParam d name use orEmpty)

/-! ### Backquotes -/

/-- The script in backquotes; a backslash keeps a backslash, a backquote and a dollar sign, and in
quotes a quote. -/
def backquoted (inQuotes : Bool) : Nat → Bytes → Parser Bytes
  | 0, s => pure s.reverse
  | fuel + 1, s => do
      match ← nextChar with
      | none => complain "EOF in backquote substitution"
      | some '\x60' => pure s.reverse
      | some '\\' =>
          match ← char with
          | none => complain "EOF in backquote substitution"
          | some c =>
              if c = '\\' ∨ c = '\x60' ∨ c = '$' ∨ (inQuotes ∧ c = '"') then
                backquoted inQuotes fuel (c :: s)
              else backquoted inQuotes fuel (c :: '\\' :: s)
      | some '\n' =>
          countLine
          backquoted inQuotes fuel ('\n' :: s)
      | some c => backquoted inQuotes fuel (c :: s)

/-- Reads something of its own text, and goes on after that where reading stopped. -/
def within {α : Type} (text : Bytes) (p : Parser α) : Parser α := do
  let r ← get
  set { r with segments := [{ rest := text }], line := 1 }
  let a ← p
  modify fun s => { s with segments := r.segments, line := r.line, again := false }
  pure a

/-! ### Marks -/

/-- The text without tabs at its beginning. -/
def withoutTabs (s : Bytes) : Bytes := s.dropWhile (· = '\t')

/-- At the beginning of a line below a command: drops tabs if the mark asks for it, and takes the line
if it is the mark. -/
def atMark (b : Below) : Parser Bool := fun r =>
  let (segments, _) := dropUsed false r.segments
  match segments with
  | s :: more =>
      let rest := if b.trims then withoutTabs s.rest else s.rest
      let here := { r with segments := { s with rest := rest } :: more }
      match Bytes.after? b.mark rest with
      | some [] => .ok true { r with segments := { s with rest := [] } :: more, line := r.line + 1 }
      | some ('\n' :: after) =>
          .ok true { r with segments := { s with rest := after } :: more, line := r.line + 1 }
      | _ => .ok false here
  | [] => .ok false r

/-! ### Words -/

/-- The next character of a word. -/
def charOf (d : Draft) : Parser (Option Char) :=
  if d.layer.manner = .single then char else nextChar

/-- Reads a backslash and what it keeps. -/
def addKept (below : Bool) (d : Draft) : Parser Draft := do
  match ← char with
  | none => pure (d.add (.escaped '\\'))
  | some c =>
      let l := d.layer
      let keepsBoth :=
        l.inQuotes && c != '\\' && c != '\x60' && c != '$'
          && (c != '"' || (below && l.params == 0)) && (c != '}' || l.params == 0)
      let d := if keepsBoth then d.add (.escaped '\\') else d
      pure { d.add (.escaped c) with quoted := true }

/-- Begins quotes. -/
def beginQuote (below : Bool) (manner : Manner) (d : Draft) : Draft :=
  let d := { d with layer := { d.layer with
    manner := manner, inQuotes := d.layer.inQuotes || manner == .double } }
  let d := if manner = .double then d.toggleInner else d
  if below then d else d.add .quote

/-- Ends quotes. -/
def endQuote (below : Bool) (c : Char) (d : Draft) : Draft :=
  if below && d.layer.params == 0 then d.addChar c
  else
    let d :=
      if d.layer.quotedParams = 0 then
        { d with layer := { d.layer with manner := .bare, inQuotes := false } }
      else d
    let d := { d with quoted := true }
    let d := if c = '"' then d.toggleInner else d
    if below then d else d.add .quote

/-- Ends a parameter in braces. -/
def endParam (d : Draft) : Draft :=
  let l := d.layer
  if !l.innerQuotes && l.params != 0 then
    let d := { d with layer := { l with params := l.params - 1 } }
    let d :=
      if d.layer.params = 0 ∧ l.ofParam then d.pop
      else if l.quotedParams ≠ 0 then
        { d with layer := { d.layer with quotedParams := l.quotedParams - 1 } }
      else d
    d.add .close
  else d.addChar '}'

/-- Reads a dollar sign and what it begins.  `inner` reads the commands of a substitution. -/
def addDollar (inner : Parser Command) (d : Draft) : Parser Draft := do
  let c ← nextChar
  if (← get).expect.mark then
    putBack c
    pure (d.addChar '$')
  else
    match c with
    | some '(' =>
        if ← accept '(' then
          pure ((d.add .openSum).push { manner := .sum, inQuotes := true })
        else
          let waiting := (← get).waiting
          modify fun r => { r with waiting := [] }
          let command ← inner
          modify fun r => { r with waiting := waiting }
          pure (d.add (.output command))
    | some '{' => bracedParam d
    | some e =>
        if isNameStart e || isSpecial e then
          let (name, c) ← paramName false c
          putBack c
          pure (addParam d (name.getD []) .value false)
        else
          putBack c
          pure (d.addChar '$')
    | none => pure (d.addChar '$')

/-- Reads a closing parenthesis in a sum. -/
def addClosing (d : Draft) : Parser Draft := do
  if 0 < d.layer.parens then
    pure { d.addChar ')' with layer := { d.layer with parens := d.layer.parens - 1 } }
  else if ← accept ')' then pure (d.add .close).pop
  else pure (d.addChar ')')

/-- Reads letters up to the end of a word, or of a text below a command.  `inner` and `quoted` read
the commands of a substitution, in parentheses and in backquotes. -/
def lettersFrom (inner quoted : Parser Command) (below : Option Below) :
    Nat → Option Char → Draft → Parser (Draft × Option Char)
  | 0, c, d => pure (d, c)
  | fuel + 1, c, d => do
      let isBelow := below.isSome
      let proceed (d : Draft) : Parser (Draft × Option Char) := do
        lettersFrom inner quoted below fuel (← charOf d) d
      match d.layer.manner.meaning c, c with
      | .letter, some c => proceed (d.addChar c)
      | .marked, some c =>
          proceed (if !isBelow || d.layer.inQuotes then d.add (.escaped c) else d.addChar c)
      | .newline, _ =>
          if d.layer.manner = .bare ∧ d.layer.params = 0 then pure (d, c)
          else
            countLine
            let d := d.addChar '\n'
            match below with
            | none => proceed d
            | some b =>
                putBack (← charOf d)
                if ← atMark b then pure (d, none) else proceed d
      | .backslash, _ => proceed (← addKept isBelow d)
      | .singleQuote, _ => proceed (beginQuote isBelow .single d)
      | .doubleQuote, _ => proceed (beginQuote isBelow .double d)
      | .endQuote, some c => proceed (endQuote isBelow c d)
      | .dollar, _ => proceed (← addDollar inner d)
      | .endParam, _ => proceed (endParam d)
      | .opening, _ =>
          let d := d.addChar '('
          proceed { d with layer := { d.layer with parens := d.layer.parens + 1 } }
      | .closing, _ => proceed (← addClosing d)
      | .backquote, _ =>
          if (← get).expect.mark then proceed (d.addChar '\x60')
          else
            let text ← backquoted d.layer.inQuotes (← get).fuel []
            let waiting := (← get).waiting
            modify fun r => { r with waiting := [] }
            let command ← within text quoted
            modify fun r => { r with waiting := waiting }
            proceed (d.add (.output command))
      | .stop, some e => if d.layer.params = 0 then pure (d, c) else proceed (d.addChar e)
      | _, _ => pure (d, c)

/-- Complains about a word that is not complete. -/
def checkComplete (below : Bool) (d : Draft) : Parser Unit := do
  if d.layer.manner = .sum then complain "Missing '))'"
  else if d.layer.manner ≠ .bare ∧ !below then complain "Unterminated quoted string"
  else if d.layer.params ≠ 0 then complain "Missing '\x7d'"

end DockerClient.Script
