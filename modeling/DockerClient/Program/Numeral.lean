import DockerClient.Program.Bytes

/-
**Numbers at the beginning of texts.**

* `Numeral` — a number that was read, and how;
* `Numeral.read` — the number that a text begins with, after white space and a sign;
* `Numeral.signed`, `Numeral.unsigned` — numbers of 64 bits, the base taken from the text;
* `Numeral.integer?` — the number that a text is, in decimal, with white space around it.
-/

set_option relaxedAutoImplicit false
set_option autoImplicit false

namespace DockerClient

/-- White space, as between the parts of a number. -/
def Bytes.isSpace (c : Char) : Bool :=
  c == ' ' || (decide ('\x09' ≤ c) && decide (c ≤ '\x0d'))

/-- A number that was read from the beginning of a text. -/
structure Numeral where
  value : Int
  rest : Bytes
  found : Bool
  exceeds : Bool

namespace Numeral

/-- The value of a digit up to `z`. -/
def digit? (c : Char) : Option Nat :=
  if '0' ≤ c ∧ c ≤ '9' then some (c.toNat - 48)
  else if 'a' ≤ c ∧ c ≤ 'z' then some (c.toNat - 87)
  else if 'A' ≤ c ∧ c ≤ 'Z' then some (c.toNat - 55)
  else none

/-- Whether a character is a digit of a base. -/
def isDigit (base : Nat) (c : Char) : Bool :=
  match digit? c with
  | some d => decide (d < base)
  | none => false

/-- The digits of a base that a text begins with: their value, how many, and what follows. -/
def digits (base : Nat) : Nat → Nat → Bytes → Nat × Nat × Bytes
  | value, count, [] => (value, count, [])
  | value, count, c :: s =>
      if isDigit base c then digits base (base * value + (digit? c).getD 0) (count + 1) s
      else (value, count, c :: s)

/-- The base that a number announces by its beginning, and the number without it. -/
def announced (s : Bytes) : Nat × Bytes :=
  match s with
  | '0' :: x :: d :: rest =>
      if (x = 'x' ∨ x = 'X') ∧ isDigit 16 d then (16, d :: rest)
      else if (x = 'b' ∨ x = 'B') ∧ isDigit 2 d then (2, d :: rest)
      else (8, s)
  | '0' :: _ => (8, s)
  | _ => (10, s)

/-- The number that a text begins with.  Base 0 stands for the base that the number announces. -/
def read (base : Nat) (s : Bytes) : Numeral :=
  let trimmed := s.dropWhile Bytes.isSpace
  let (negative, unsigned) :=
    match trimmed with
    | '-' :: t => (true, t)
    | '+' :: t => (false, t)
    | t => (false, t)
  let (base, body) := if base = 0 then announced unsigned else (base, unsigned)
  let (value, count, rest) := digits base 0 0 body
  if count = 0 then ⟨0, s, false, false⟩
  else ⟨if negative then -(value : Int) else value, rest, true, false⟩

/-- The greatest number of 64 bits with a sign. -/
def greatest : Int := 9223372036854775807

/-- The least number of 64 bits with a sign. -/
def least : Int := -9223372036854775808

/-- The number with a sign that a text begins with, cut to 64 bits. -/
def signed (base : Nat) (s : Bytes) : Numeral :=
  let n := read base s
  if greatest < n.value then { n with value := greatest, exceeds := true }
  else if n.value < least then { n with value := least, exceeds := true }
  else n

/-- The number without a sign that a text begins with, cut to 64 bits; a minus sign turns it
around. -/
def unsigned (base : Nat) (s : Bytes) : Numeral :=
  let n := read base s
  if 18446744073709551615 < n.value.natAbs then
    { n with value := 18446744073709551615, exceeds := true }
  else { n with value := n.value % 18446744073709551616 }

/-- A number brought to 64 bits with a sign. -/
def wrap (n : Int) : Int := Int.bmod n 18446744073709551616

/-- The number of 64 bits that a text is, with white space around it; a base other than zero asks
for a digit. -/
def whole? (base : Nat) (s : Bytes) : Option Int :=
  let n := signed base s
  if n.exceeds || (base != 0 && !n.found) || !(n.rest.dropWhile Bytes.isSpace).isEmpty then none
  else some n.value

/-- The decimal number that a text is. -/
def integer? (s : Bytes) : Option Int := whole? 10 s

/-- The decimal number that a text is, if it is a count. -/
def count? (s : Bytes) : Option Nat :=
  match integer? s with
  | some (.ofNat n) => if n ≤ 2147483647 then some n else none
  | _ => none

/-- The digits of a number in a base. -/
def inBase (base n : Nat) : Bytes := Nat.toDigits base n

end Numeral

end DockerClient
