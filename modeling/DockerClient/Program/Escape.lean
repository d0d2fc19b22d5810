import DockerClient.Program.Bytes

/-
**Characters that are written with a backslash.**

* `Escape.character` — the character that the text after a backslash stands for;
* `Escape.text` — a text in which such characters are replaced, up to the sign that ends printing.
-/

set_option relaxedAutoImplicit false
set_option autoImplicit false

namespace DockerClient.Escape

/-- An octal digit. -/
def isOctal (c : Char) : Bool := decide ('0' ≤ c) && decide (c ≤ '7')

/-- The value of octal digits, at most so many, and what follows them. -/
def octal : Nat → Nat → Bytes → Nat × Bytes
  | 0, n, s => (n, s)
  | _ + 1, n, [] => (n, [])
  | count + 1, n, c :: s => if isOctal c then octal count (8 * n + (c.toNat - 48)) s else (n, c :: s)

/-- The character that a letter after a backslash stands for. -/
def letter? (c : Char) : Option Char :=
  match c with
  | '\\' => some '\\'
  | 'a' => some '\x07'
  | 'b' => some '\x08'
  | 'e' => some '\x1b'
  | 'f' => some '\x0c'
  | 'n' => some '\n'
  | 'r' => some '\r'
  | 't' => some '\t'
  | 'v' => some '\x0b'
  | _ => none

/-- The character that a text after a backslash begins with, and what follows it.  A backslash that
nothing is known about stands for itself. -/
def character : Bytes → Char × Bytes
  | [] => ('\\', [])
  | c :: s =>
      match letter? c with
      | some d => (d, s)
      | none =>
          if isOctal c then
            let (n, rest) := octal 3 0 (c :: s)
            (Bytes.byte n, rest)
          else ('\\', c :: s)

/-- The character after a backslash in a text to be printed, where octal numbers may begin with a
zero that does not count. -/
def characterIn : Bytes → Char × Bytes
  | '0' :: c :: s => if isOctal c then character (c :: s) else character ('0' :: c :: s)
  | s => character s

/-- A text with its characters replaced, and whether it ends printing. -/
def textWithin : Nat → Bytes → Bytes × Bool
  | 0, _ => ([], false)
  | _ + 1, [] => ([], false)
  | _ + 1, '\\' :: 'c' :: _ => ([], true)
  | fuel + 1, '\\' :: s =>
      let (c, rest) := characterIn s
      let (shown, stops) := textWithin fuel rest
      (c :: shown, stops)
  | fuel + 1, c :: s =>
      let (shown, stops) := textWithin fuel s
      (c :: shown, stops)

/-- A text with its characters replaced, and whether it ends printing. -/
def text (s : Bytes) : Bytes × Bool := textWithin (s.length + 1) s

end DockerClient.Escape
