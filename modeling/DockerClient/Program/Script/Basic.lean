import DockerClient.Program.Bytes

/-
**Shell scripts.**

* `Script.Piece`, `Script.Word` — words with their quoted, substituted and literal pieces;
* `Script.Command` — commands, `Script.Redirect` — where their streams go;
* `Script.plain?` — the text of a word that means nothing but itself.
-/

set_option relaxedAutoImplicit false
set_option autoImplicit false

namespace DockerClient.Script

/-- What is done with the value of a parameter. -/
inductive Use where
  | value
  | length
  | orElse
  | ifSet
  | orFail
  | orAssign
  | dropFront (longest : Bool)
  | dropBack (longest : Bool)
  | unknown
deriving DecidableEq, Repr

/-- How the file of a redirection is opened: `safe` leaves a file that is there alone if asked to. -/
inductive Direction where
  | input
  | output
  | safe
  | append
  | both
deriving DecidableEq, Repr

mutual

/-- A piece of a word.  A character that is escaped has no meaning besides itself, and `quote` stands
where a quote begins or ends. -/
inductive Piece where
  | char (c : Char)
  | escaped (c : Char)
  | quote
  | param (name : Bytes) (use : Use) (orEmpty : Bool) (word : List Piece)
  | output (command : Command)
  | sum (expression : List Piece)

/-- A redirection of a stream: to or from a file, another stream, or a text below the command. -/
inductive Redirect where
  | file (fd : Nat) (direction : Direction) (path : List Piece)
  | stream (fd : Nat) (source : Option Nat)
  | named (fd : Nat) (source : List Piece)
  | text (fd : Nat) (text : Nat)

/-- A command. -/
inductive Command where
  | empty
  | simple (line : Nat) (settings words : List (List Piece)) (redirects : List Redirect)
  | seq (first second : Command)
  | both (first second : Command)
  | either (first second : Command)
  | negate (command : Command)
  | pipe (commands : List Command) (aside : Bool)
  | choose (condition yes : Command) (no : Option Command)
  | loop (condition body : Command) (untilTrue : Bool)
  | each (line : Nat) (name : Bytes) (words : List (List Piece)) (body : Command)
  | select (line : Nat) (subject : List Piece) (arms : List (List (List Piece) × Command))
  | redirected (line : Nat) (body : Command) (redirects : List Redirect)
  | subshell (line : Nat) (body : Command) (redirects : List Redirect)
  | aside (line : Nat) (body : Command) (redirects : List Redirect)
  | define (line : Nat) (name : Bytes) (body : Command)

end

/-- A word before its pieces are replaced by what they stand for. -/
abbrev Word := List Piece

/-! ### Names and literal words -/

/-- The first character of a name. -/
def isNameStart (c : Char) : Bool :=
  (decide ('a' ≤ c) && decide (c ≤ 'z')) || (decide ('A' ≤ c) && decide (c ≤ 'Z')) || c == '_'

/-- A character of a name. -/
def isNameChar (c : Char) : Bool := isNameStart c || (decide ('0' ≤ c) && decide (c ≤ '9'))

/-- A decimal digit. -/
def isDigit (c : Char) : Bool := decide ('0' ≤ c) && decide (c ≤ '9')

/-- The name that a text begins with. -/
def nameOf (s : Bytes) : Bytes :=
  match s with
  | c :: _ => if isNameStart c then s.takeWhile isNameChar else []
  | [] => []

/-- Whether a text is a name. -/
def isName (s : Bytes) : Bool := !s.isEmpty && nameOf s == s

/-- The text of a word that means nothing but itself. -/
def plain? : Word → Option Bytes
  | [] => some []
  | .char c :: rest => (plain? rest).map (c :: ·)
  | _ => none

/-- The text that a word begins with, up to the first piece that is more. -/
def plainStart : Word → Bytes
  | .char c :: rest => c :: plainStart rest
  | _ => []

/-- Whether a word sets a variable. -/
def isSetting (w : Word) : Bool :=
  let start := plainStart w
  let name := nameOf start
  !name.isEmpty && (start.drop name.length).head? == some '='

/-- A word without its quotes, as far as it is literal. -/
def literal : Word → Bytes
  | [] => []
  | .char c :: rest => c :: literal rest
  | .escaped c :: rest => c :: literal rest
  | _ :: rest => literal rest

end DockerClient.Script
