import DockerClient.Program.Script.Basic

/-
**Reading a script, character by character.**

* `Script.Reader` — what is left of a script, the line, and the last token;
* `Script.Parser` — steps of reading, which may end in a complaint;
* `Script.char`, `Script.nextChar` — the next character; the second one joins lines that end in a
  backslash;
* `Script.Token` — the words and signs of a script.
-/

set_option relaxedAutoImplicit false
set_option autoImplicit false

namespace DockerClient.Script

/-! ### Tokens -/

/-- A word or sign of a script. -/
inductive Token where
  | eof
  | newline
  | semicolon
  | ampersand
  | andAlso
  | orElse
  | bar
  | opening
  | closing
  | endArm
  | redirection
  | word
  | keyword (name : String)
deriving DecidableEq, Repr

/-- A token in a complaint. -/
def Token.text : Token → String
  | .eof => "end of file"
  | .newline => "newline"
  | .semicolon => "\";\""
  | .ampersand => "\"&\""
  | .andAlso => "\"&&\""
  | .orElse => "\"||\""
  | .bar => "\"|\""
  | .opening => "\"(\""
  | .closing => "\")\""
  | .endArm => "\";;\""
  | .redirection => "redirection"
  | .word => "word"
  | .keyword name => "\"" ++ name ++ "\""

/-- The words that are tokens of their own where a command may begin. -/
def keywords : List String :=
  ["!", "case", "do", "done", "elif", "else", "esac", "fi", "for", "if", "in", "then", "until",
   "while", "\x7b", "\x7d"]

/-- The keywords that end a list of commands. -/
def closers : List String :=
  ["do", "done", "elif", "else", "esac", "fi", "then", "\x7d"]

/-- Whether a token ends a list of commands. -/
def Token.endsList : Token → Bool
  | .eof | .closing | .endArm => true
  | .keyword name => closers.contains name
  | _ => false

/-! ### Readers -/

/-- A piece of input: the script itself, or what an alias stands for. -/
structure Segment where
  rest : Bytes
  ofAlias : Option Bytes := none
  endsBlank : Bool := false

/-- What the next token is read for: line ends may be skipped, keywords and aliases may be
recognised, or nothing is replaced in the mark of a text below the command. -/
structure Expect where
  lines : Bool := false
  keywords : Bool := false
  aliases : Bool := false
  mark : Bool := false

/-- A text that stands below the line of its command, up to a line that is its mark. -/
structure Below where
  number : Nat
  mark : Bytes
  trims : Bool
  literal : Bool

/-- The state of reading. -/
structure Reader where
  segments : List Segment
  line : Nat := 1
  again : Bool := false
  last : Token := .newline
  word : Word := []
  quoted : Bool := false
  expect : Expect := {}
  redirect : Redirect := .stream 0 none
  below : Option Below := none
  waiting : List Below := []
  texts : List (Nat × Word) := []
  nextText : Nat := 0
  aliases : List (Bytes × Bytes) := []
  fuel : Nat

/-- A complaint about a script. -/
structure Complaint where
  line : Nat
  text : String

/-- Steps of reading. -/
abbrev Parser := EStateM Complaint Reader

/-- Ends reading with a complaint about the present line. -/
def complain {α : Type} (text : String) : Parser α := fun r => .error ⟨r.line, text⟩ r

/-- Complains about the last token. -/
def unexpected {α : Type} : Parser α := do
  complain ((← get).last.text ++ " unexpected")

/-- Complains about the last token, in whose place another one should stand. -/
def expecting {α : Type} (token : Token) : Parser α := do
  complain ((← get).last.text ++ " unexpected (expecting " ++ token.text ++ ")")

/-! ### Characters -/

/-- Segments without those at the front that are used up, and whether one of them was an alias that
ended in a blank. -/
def dropUsed : Bool → List Segment → List Segment × Bool
  | blank, s :: t :: more =>
      if s.rest.isEmpty then dropUsed (blank || s.endsBlank) (t :: more) else (s :: t :: more, blank)
  | blank, segments => (segments, blank)

/-- The next character, none at the end. -/
def char : Parser (Option Char) := fun r =>
  let (segments, blank) := dropUsed false r.segments
  let r :=
    if blank then { r with expect := { r.expect with aliases := true } } else r
  match segments with
  | s :: more =>
      match s.rest with
      | c :: rest => .ok (some c) { r with segments := { s with rest := rest } :: more }
      | [] => .ok none { r with segments := segments }
  | [] => .ok none r

/-- Puts a character back. -/
def putBack (c : Option Char) : Parser Unit :=
  modify fun r =>
    match c, r.segments with
    | some c, s :: more => { r with segments := { s with rest := c :: s.rest } :: more }
    | _, _ => r

/-- Counts a line. -/
def countLine : Parser Unit := modify fun r => { r with line := r.line + 1 }

/-- The next character after lines have been joined that a backslash ends. -/
def joinedChar : Nat → Parser (Option Char)
  | 0 => pure none
  | fuel + 1 => do
      let c ← char
      if c = some '\\' then
        let d ← char
        if d = some '\n' then
          countLine
          joinedChar fuel
        else
          putBack d
          pure c
      else pure c

/-- The next character after lines have been joined that a backslash ends. -/
def nextChar : Parser (Option Char) := do joinedChar (← get).fuel

/-- Whether the next character is this one, which is taken then. -/
def accept (c : Char) : Parser Bool := do
  let d ← nextChar
  if d = some c then pure true
  else
    putBack d
    pure false

/-- Drops what is left of a line, without its end. -/
def skipComment : Nat → Parser Unit
  | 0 => pure ()
  | fuel + 1 => do
      let c ← char
      if c = none then pure ()
      else if c = some '\n' then putBack c
      else skipComment fuel

end DockerClient.Script
