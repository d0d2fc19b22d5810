import DockerClient.Program.Script.Letters

/-
**Reading tokens.**

* `Script.scan` — the next word or sign;
* `Script.token` — the next token, as what is expected: line ends skipped, keywords recognised,
  aliases replaced;
* `Script.readTexts` — the texts that stand below the line that has just ended.
-/

set_option relaxedAutoImplicit false
set_option autoImplicit false

namespace DockerClient.Script

/-- How the commands of a substitution are read: in parentheses, and in backquotes. -/
structure Inner where
  parenthesized : Parser Command
  quoted : Parser Command

/-! ### Words and redirections -/

/-- The redirection that a sign after an optional digit begins. -/
def readRedirection (digit : Option Char) (sign : Char) : Parser Unit := do
  let fd (default : Nat) : Nat :=
    match digit with
    | some d => d.toNat - 48
    | none => default
  let redirect : Redirect ←
    if sign = '>' then
      match ← nextChar with
      | some '>' => pure (.file (fd 1) .append [])
      | some '|' => pure (.file (fd 1) .output [])
      | some '&' => pure (.named (fd 1) [])
      | c =>
          putBack c
          pure (.file (fd 1) .safe [])
    else
      match ← nextChar with
      | some '<' =>
          let trims ← accept '-'
          let r ← get
          set { r with below := some ⟨r.nextText, [], trims, false⟩, nextText := r.nextText + 1 }
          pure (.text (fd 0) r.nextText)
      | some '&' => pure (.named (fd 0) [])
      | some '>' => pure (.file (fd 0) .both [])
      | c =>
          putBack c
          pure (.file (fd 0) .input [])
  modify fun r => { r with redirect := redirect }

/-- Reads a word from its first character on, or a redirection. -/
def readWord (inner : Inner) (c : Option Char) : Parser Token := do
  let fuel := (← get).fuel
  let (d, c) ← lettersFrom inner.parenthesized inner.quoted none fuel c { layer := { manner := .bare } }
  checkComplete false d
  let digit? : Option (Option Char) :=
    match d.items with
    | [] => some none
    | [.char e] => if isDigit e then some (some e) else none
    | _ => none
  match c, digit?, d.quoted with
  | some '<', some digit, false =>
      readRedirection digit '<'
      pure .redirection
  | some '>', some digit, false =>
      readRedirection digit '>'
      pure .redirection
  | c, _, quoted =>
      putBack c
      modify fun r => { r with word := nest d.items.reverse, quoted := quoted }
      pure .word

/-- Reads a text below a command. -/
def readText (inner : Inner) (b : Below) : Parser Unit := do
  let manner : Manner := if b.literal then .single else .double
  let d : Draft := { layer := { manner := manner, inQuotes := manner == .double } }
  if manner = .double then putBack (← nextChar)
  let word ←
    if ← atMark b then pure []
    else
      let fuel := (← get).fuel
      let (d, _) ← lettersFrom inner.parenthesized inner.quoted (some b) fuel (← charOf d) d
      checkComplete true d
      pure (nest d.items.reverse)
  modify fun r => { r with texts := (b.number, word) :: r.texts }

/-- Reads texts one after the other. -/
def readEach (inner : Inner) : List Below → Parser Unit
  | [] => pure ()
  | b :: rest => do
      readText inner b
      readEach inner rest

/-- Reads the texts that stand below the line that has just ended. -/
def readTexts (inner : Inner) : Parser Unit := do
  let waiting := (← get).waiting
  modify fun r => { r with waiting := [] }
  readEach inner waiting

/-! ### Tokens -/

/-- The next word or sign. -/
def scan (inner : Inner) : Nat → Parser Token
  | 0 => pure .eof
  | fuel + 1 => do
      let c ← nextChar
      match c with
      | none => pure .eof
      | some ' ' => scan inner fuel
      | some '\t' => scan inner fuel
      | some '#' =>
          skipComment (← get).fuel
          scan inner fuel
      | some '\n' =>
          countLine
          pure .newline
      | some '&' => pure (if ← accept '&' then .andAlso else .ampersand)
      | some '|' => pure (if ← accept '|' then .orElse else .bar)
      | some ';' => pure (if ← accept ';' then .endArm else .semicolon)
      | some '(' => pure .opening
      | some ')' => pure .closing
      | c => readWord inner c

/-- The next token, or the last one again if it was put back. -/
def rawToken (inner : Inner) : Parser Token := do
  let r ← get
  if r.again then
    set { r with again := false }
    pure r.last
  else
    let t ← scan inner r.fuel
    modify fun r => { r with last := t }
    pure t

/-- Skips line ends from a token on. -/
def skipLines (inner : Inner) : Nat → Token → Parser Token
  | 0, t => pure t
  | fuel + 1, t => do
      if t = .newline then
        readTexts inner
        modify fun r => { r with expect := {} }
        skipLines inner fuel (← rawToken inner)
      else pure t

/-- Puts what an alias stands for before the rest of the input. -/
def pushAlias (name text : Bytes) : Parser Unit :=
  if text.isEmpty then pure ()
  else modify fun r =>
    let endsBlank := text.getLast? == some ' ' || text.getLast? == some '\t'
    { r with segments := ⟨text, some name, endsBlank⟩ :: r.segments }

/-- The alias of a name, unless its text is being read. -/
def Reader.alias? (r : Reader) (name : Bytes) : Option Bytes :=
  if r.segments.any fun s => s.ofAlias == some name then none else r.aliases.lookup name

/-- The next token, where line ends, keywords and aliases are looked at as expected. -/
def tokenFrom (inner : Inner) (wanted : Expect) : Nat → Parser Token
  | 0 => pure .eof
  | fuel + 1 => do
      let t ← rawToken inner
      let t ← if wanted.lines then skipLines inner fuel t else pure t
      let r ← get
      let keywords := wanted.keywords || r.expect.keywords
      let aliases := wanted.aliases || r.expect.aliases
      modify fun r => { r with expect := {} }
      match t, r.quoted, plain? r.word with
      | .word, false, some text =>
          let name := String.ofList text
          if keywords && Script.keywords.contains name then
            modify fun r => { r with last := .keyword name }
            pure (.keyword name)
          else
            match (if aliases then r.alias? text else none) with
            | some value =>
                pushAlias text value
                tokenFrom inner { wanted with keywords := keywords, aliases := aliases } fuel
            | none => pure .word
      | t, _, _ => pure t

/-- The next token. -/
def token (inner : Inner) : Parser Token := do
  let r ← get
  tokenFrom inner r.expect r.fuel

/-- Sets what the next token is read for. -/
def expect (e : Expect) : Parser Unit := modify fun r => { r with expect := e }

/-- Puts the last token back. -/
def putBackToken : Parser Unit := modify fun r => { r with again := true }

/-- Where a command begins, on a line below. -/
def Expect.below : Expect := { lines := true, keywords := true, aliases := true }

/-- Where a command begins. -/
def Expect.command : Expect := { keywords := true, aliases := true }

end DockerClient.Script
