import DockerClient.Decimal.Shortest
import DockerClient.Json.Syntax

/-
**JSON numbers.**

A whole number that fits 64 bits stays exact, every other number is a double.  A double is found by
collecting digits while they fit 64 bits and then scaling by a power of ten.

* `Json.Number`, `Json.Number.read?` — the number of a written form; none if it is too large;
* `Json.Number.write` — the written form of a number, the shortest that reads back for doubles.
-/

set_option relaxedAutoImplicit false
set_option autoImplicit false

namespace DockerClient.Json

/-- A whole number, or a double given by its bits. -/
inductive Number where
  | integer (value : Int)
  | double (bits : UInt64)
deriving DecidableEq, Repr

namespace Number

/-! ### Reading -/

/-- The largest collected value. -/
def limit : Nat := Nat.pow 2 64 - 1

/-- The value of a digit. -/
def digit (b : UInt8) : Nat := b.toNat - 0x30

/-- Collects the digits of a whole part while they fit; the second number counts those dropped. -/
def collect : Nat → List UInt8 → Nat × Nat
  | acc, [] => (acc, 0)
  | acc, b :: rest =>
      if acc * 10 + digit b ≤ limit then collect (acc * 10 + digit b) rest
      else (acc, rest.length + 1)

/-- Collects the digits of a fraction while they fit; the second number counts those taken. -/
def collectFraction : Nat → List UInt8 → Nat × Nat
  | acc, [] => (acc, 0)
  | acc, b :: rest =>
      if acc * 10 + digit b ≤ limit then
        let (total, taken) := collectFraction (acc * 10 + digit b) rest
        (total, taken + 1)
      else (acc, 0)

/-- The value of a run of digits. -/
def decimal (ds : List UInt8) : Nat := ds.foldl (fun acc b => acc * 10 + digit b) 0

/-- A power of ten as a double. -/
def power (n : Nat) : Float := Float.ofScientific 1 false n

/-- Scales a double by a power of ten; none if the result is too large.  Large negative powers are
divided out in steps, whose number is bounded by the first argument. -/
def scale : Nat → Float → Int → Option Float
  | 0, f, _ => some f
  | steps + 1, f, e =>
      if e.natAbs ≤ 308 then
        if 0 ≤ e then
          let scaled := f * power e.natAbs
          if scaled.isInf then none else some scaled
        else some (f / power e.natAbs)
      else if f == 0.0 then some f
      else if 0 ≤ e then none
      else scale steps (f / power 308) (e + 308)

/-- The number with a sign, a collected value and a power of ten. -/
def ofParts (negative : Bool) (collected : Nat) (e : Int) : Option Number :=
  (scale 8 (UInt64.ofNat collected).toFloat e).map fun f =>
    .double (if negative then (-f).toBits else f.toBits)

/-- The number of the written form with the given sign, whole part, fraction and exponent. -/
def assemble (negative : Bool) (whole frac : List UInt8) (exponent : Option (Bool × List UInt8)) :
    Option Number :=
  let (collected, dropped) := collect 0 whole
  if frac = [] ∧ exponent = none ∧ dropped = 0 then
    if !negative then some (.integer collected)
    else if collected = 0 ∨ Nat.pow 2 63 < collected then
      some (.double (-(UInt64.ofNat collected).toFloat).toBits)
    else some (.integer (-collected))
  else
    let (total, taken) := collectFraction collected frac
    let e : Int := (dropped : Int) - taken
    match exponent with
    | none => ofParts negative total e
    | some (down, ds) =>
        if Nat.pow 2 31 - 1 < decimal ds then
          if total ≠ 0 ∧ !down then none
          else some (.double (if negative then (-0.0 : Float).toBits else (0.0 : Float).toBits))
        else ofParts negative total (if down then e - decimal ds else e + decimal ds)

/-- The number of a written form; none if it is too large for a double. -/
def read? (lexeme : List UInt8) : Option Number :=
  let (signs, rest) := sign lexeme
  let whole := rest.takeWhile isDigit
  let rest := rest.dropWhile isDigit
  let (frac, rest) :=
    match rest with
    | b :: after => if b = 0x2E then (after.takeWhile isDigit, after.dropWhile isDigit) else ([], rest)
    | [] => ([], [])
  let exponent :=
    match rest with
    | _ :: after =>
        match after with
        | b :: ds =>
            if b = 0x2D then some (true, ds)
            else if b = 0x2B then some (false, ds)
            else some (false, after)
        | [] => none
    | [] => none
  assemble (signs ≠ []) whole frac exponent

/-! ### Writing -/

/-- The decimal digits of a natural number. -/
def digitsOf (n : Nat) : List UInt8 :=
  (Nat.toDigits 10 n).map fun c => UInt8.ofNat c.toNat

/-- The written form of `n · 10 ^ k`: positional from 10⁻⁵ up to 10¹⁶, with an exponent
and its sign outside. -/
def writeDecimal (n : Nat) (k : Int) : List UInt8 :=
  let ds := digitsOf n
  let point : Int := ds.length + k
  let zeros (i : Int) : List UInt8 := List.replicate i.toNat 0x30
  if 0 ≤ k ∧ point ≤ 16 then ds ++ zeros k ++ [0x2E, 0x30]
  else if 0 < point ∧ point ≤ 16 then ds.take point.toNat ++ 0x2E :: ds.drop point.toNat
  else if -5 < point ∧ point ≤ 0 then [0x30, 0x2E] ++ zeros (-point) ++ ds
  else
    let e := point - 1
    let tail := if ds.length = 1 then [] else 0x2E :: ds.drop 1
    ds.take 1 ++ tail ++ 0x65 :: (if e < 0 then 0x2D else 0x2B) :: digitsOf e.natAbs

/-- The written form of a number. -/
def write : Number → List UInt8
  | .integer i => if i < 0 then 0x2D :: digitsOf i.natAbs else digitsOf i.natAbs
  | .double bits =>
      let minus : List UInt8 := if bits.toNat < Nat.pow 2 63 then [] else [0x2D]
      let x := Decimal.Binary.ofBits bits
      if x.significand = 0 then minus ++ [0x30, 0x2E, 0x30]
      else
        let (n, k) := Decimal.shortest x
        minus ++ writeDecimal n k

end Number

end DockerClient.Json
