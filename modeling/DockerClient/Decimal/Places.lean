import DockerClient.Decimal.Shortest

/-
**Doubles with a given number of places.**

A double is read from a quotient of natural numbers, the nearest one taken, and written with as many
places as asked for, again rounded to the nearest; of two that are as near, the even one is taken.

* `Decimal.nearestQuotient` — rounding a quotient;
* `Decimal.Binary.ofQuotient` — the double that is nearest to a quotient;
* `Decimal.plain`, `Decimal.scientific`, `Decimal.general`, `Decimal.hexadecimal` — the ways of
  writing.
-/

set_option relaxedAutoImplicit false
set_option autoImplicit false

namespace DockerClient.Decimal

/-! ### Rounding -/

/-- The natural number nearest to a quotient, of two the even one. -/
def nearestQuotient (n d : Nat) : Nat :=
  let q := n / d
  let r := n % d
  if 2 * r < d then q else if d < 2 * r then q + 1 else q + q % 2

/-! ### Reading -/

/-- The least power of two in a double. -/
def leastPower : Int := -1074

/-- The greatest power of two in a double. -/
def greatestPower : Int := 971

/-- The power of two in the double nearest to a quotient. -/
def powerFor (n d : Nat) : Int :=
  let guess : Int := (Nat.log2 n : Int) - Nat.log2 d - 52
  let quotient (p : Int) : Nat := n * Nat.pow 2 (-p).toNat / (d * Nat.pow 2 p.toNat)
  let power := if quotient guess < Nat.pow 2 52 then guess - 1 else guess
  max power leastPower

/-- The double nearest to a quotient; none if it is too great. -/
def Binary.ofQuotient (n d : Nat) : Option Binary :=
  if n = 0 then some ⟨0, leastPower, false⟩
  else
    let p := powerFor n d
    let m := nearestQuotient (n * Nat.pow 2 (-p).toNat) (d * Nat.pow 2 p.toNat)
    let (m, p) := if m = Nat.pow 2 53 then (Nat.pow 2 52, p + 1) else (m, p)
    if greatestPower < p then none else some ⟨m, p, m == Nat.pow 2 52 && p != leastPower⟩

/-! ### Writing -/

/-- The digits of a number, at least so many. -/
def digits (count n : Nat) : List Char :=
  let shown := Nat.toDigits 10 n
  List.replicate (count - shown.length) '0' ++ shown

/-- A number with a point before its last places; the point stands alone if it is asked for. -/
def pointed (places : Nat) (point : Bool) (n : Nat) : List Char :=
  let shown := digits (places + 1) n
  let whole := shown.length - places
  shown.take whole ++ (if places = 0 && !point then [] else '.' :: shown.drop whole)

/-- The value times a power of ten, rounded. -/
def scaledBy (x : Binary) (k : Int) : Nat :=
  let (n, d) := scaled x.significand x.power (-k)
  nearestQuotient n d

/-- The value with so many places. -/
def plain (places : Nat) (point : Bool) (x : Binary) : List Char :=
  pointed places point (scaledBy x places)

/-- The power of ten of the first digit of a quotient, which is looked for from a power downwards. -/
def leading (n d : Nat) : Nat → Int → Int
  | 0, e => e
  | count + 1, e =>
      if d * Nat.pow 10 e.toNat ≤ n * Nat.pow 10 (-e).toNat then e else leading n d count (e - 1)

/-- The rounded digits with so many places after the first one, and the power of ten of the first. -/
def rounded (places : Nat) (x : Binary) : Nat × Int :=
  if x.significand = 0 then (0, 0)
  else
    let (n, d) := scaled x.significand x.power 0
    let e := leading n d 640 309
    let m := scaledBy x (places - e)
    if m = Nat.pow 10 (places + 1) then (Nat.pow 10 places, e + 1) else (m, e)

/-- A power of ten with its sign and at least two digits. -/
def exponentText (mark : Char) (e : Int) : List Char :=
  mark :: (if e < 0 then '-' else '+') :: digits 2 e.natAbs

/-- The value with one digit before the point, so many after it, and a power of ten. -/
def scientific (places : Nat) (point : Bool) (mark : Char) (x : Binary) : List Char :=
  let (m, e) := rounded places x
  pointed places point m ++ exponentText mark e

/-- A text without zeros after the point, and without the point if nothing follows it. -/
def stripped (s : List Char) : List Char :=
  if s.contains '.' then
    let kept := s.reverse.dropWhile (· = '0')
    (if kept.head? = some '.' then kept.drop 1 else kept).reverse
  else s

/-- The value with so many digits: without a power of ten if that is short enough. -/
def general (places : Nat) (point : Bool) (mark : Char) (x : Binary) : List Char :=
  let places := max places 1
  let (m, e) := rounded (places - 1) x
  if -4 ≤ e ∧ e < places then
    let text := plain (places - 1 - e).toNat point x
    if point then text else stripped text
  else
    let text := pointed (places - 1) point m
    (if point then text else stripped text) ++ exponentText mark e

/-- The value with a power of two; as many places as are needed if their number is not given. -/
def hexadecimal (places : Option Nat) (point : Bool) (mark : Char) (x : Binary) : List Char :=
  let exponent (e : Int) : List Char :=
    mark :: (if e < 0 then '-' else '+') :: Nat.toDigits 10 e.natAbs
  let shown (m : Nat) (count : Nat) : List Char :=
    let text := Nat.toDigits 16 m
    let text := List.replicate (count + 1 - text.length) '0' ++ text
    let whole := text.length - count
    text.take whole ++ (if count = 0 && !point then [] else '.' :: text.drop whole)
  if x.significand = 0 then shown 0 (places.getD 0) ++ exponent 0
  else
    let shift := 52 - Nat.log2 x.significand
    let m := x.significand * Nat.pow 2 shift
    let e := x.power - shift + 52
    match places with
    | none =>
        let text := shown m 13
        let kept := (text.reverse.dropWhile (· = '0')).reverse
        (if kept.getLast? = some '.' && !point then kept.dropLast else kept) ++ exponent e
    | some count =>
        if 13 ≤ count then shown (m * Nat.pow 16 (count - 13)) count ++ exponent e
        else shown (nearestQuotient m (Nat.pow 16 (13 - count))) count ++ exponent e

end DockerClient.Decimal
