import DockerClient.Text.Extending
import DockerClient.Text.Hidden

/-
**Quoted text.**

Descriptions of a value show its texts in double quotes.  Quotes, backslashes and the common
controls have escapes of their own; every other character that has no shape, or that would change
the shape of the one before it, is shown by its code point.

* `Text.quote`, `Text.quotePath` — a text and a path in quotes;
* `Text.prints` — whether a character stands for itself between quotes;
* `Text.listed`, `Text.optional` — the descriptions of a list and of an optional value.
-/

set_option relaxedAutoImplicit false
set_option autoImplicit false

namespace DockerClient.Text

/-- Whether a character stands for itself between quotes. -/
def prints (c : Char) : Bool := !isHidden c && !isExtending c

/-- A code point in hexadecimal without leading zeros. -/
def codePoint (c : Char) : List Char :=
  Nat.toDigits 16 c.toNat

/-- The written form of one character between quotes, of which some have escapes. -/
def quoteChar (marks : List Char) (c : Char) : List Char :=
  if marks.contains c then ['\\', c]
  else if c = '\\' then ['\\', '\\']
  else if c = '\n' then ['\\', 'n']
  else if c = '\r' then ['\\', 'r']
  else if c = '\t' then ['\\', 't']
  else if c = '\x00' then ['\\', '0']
  else if prints c then [c]
  else ['\\', 'u', '\x7b'] ++ codePoint c ++ ['\x7d']

/-- A text between double quotes. -/
def quote (s : String) : String :=
  String.ofList ('"' :: s.toList.flatMap (quoteChar ['"']) ++ ['"'])

/-- A path between double quotes; single quotes in it have escapes too. -/
def quotePath (s : String) : String :=
  String.ofList ('"' :: s.toList.flatMap (quoteChar ['"', '\x27']) ++ ['"'])

/-- Descriptions between brackets, separated by commas. -/
def listed (items : List String) : String :=
  "[" ++ ", ".intercalate items ++ "]"

/-- The description of an optional value. -/
def optional : Option String → String
  | none => "None"
  | some item => "Some(" ++ item ++ ")"

end DockerClient.Text
