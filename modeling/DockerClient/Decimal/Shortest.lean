/-
**The shortest decimal of a double.**

A double is `m · 2 ^ q` with natural `m`.  Every decimal between the two midpoints to its neighbours
reads back as it, the midpoints included if `m` is even.  On the coarsest grid of powers of ten that
has a point there, the point nearest to the double is its shortest decimal.

* `Decimal.Binary`, `Decimal.Binary.ofBits` — the parts of a positive double;
* `Decimal.shortest` — the digits and the power of ten of the shortest decimal.
-/

set_option relaxedAutoImplicit false
set_option autoImplicit false

namespace DockerClient.Decimal

/-- The value `significand · 2 ^ power`; `atEdge` says that the neighbour below is only half as far
as the one above. -/
structure Binary where
  significand : Nat
  power : Int
  atEdge : Bool
deriving DecidableEq, Repr

/-- The parts of the absolute value of a finite double. -/
def Binary.ofBits (bits : UInt64) : Binary :=
  let field : Nat := (bits.toNat / Nat.pow 2 52) % 2048
  let fraction : Nat := bits.toNat % Nat.pow 2 52
  if field = 0 then ⟨fraction, -1074, false⟩
  else ⟨Nat.pow 2 52 + fraction, (field : Int) - 1075, fraction == 0 && field != 1⟩

/-- `n · 2 ^ p / 10 ^ k` as a quotient of natural numbers. -/
def scaled (n : Nat) (p k : Int) : Nat × Nat :=
  (n * Nat.pow 2 p.toNat * Nat.pow 10 (-k).toNat, Nat.pow 2 (-p).toNat * Nat.pow 10 k.toNat)

/-- The point of the grid of `10 ^ k` that reads back and is nearest to the value, if there is one.
The value and the ends of its interval are counted in quarters of its last place. -/
def onGrid (x : Binary) (k : Int) : Option Nat :=
  let (n, d) := scaled (4 * x.significand) (x.power - 2) k
  let low := (scaled (4 * x.significand - (if x.atEdge then 1 else 2)) (x.power - 2) k).1
  let high := (scaled (4 * x.significand + 2) (x.power - 2) k).1
  let closed := x.significand % 2 = 0
  let inside (c : Nat) : Bool :=
    if closed then decide (low ≤ c * d) && decide (c * d ≤ high)
    else decide (low < c * d) && decide (c * d < high)
  let below := n / d
  match inside below, inside (below + 1) with
  | true, true =>
      if 2 * (n - below * d) < d ∨ (2 * (n - below * d) = d ∧ below % 2 = 0) then some below
      else some (below + 1)
  | true, false => some below
  | false, true => some (below + 1)
  | false, false => none

/-- The first grid with a point, among `count` grids from that of `10 ^ k` on. -/
def search (x : Binary) : Nat → Int → Nat × Int
  | 0, k => (0, k)
  | count + 1, k =>
      match onGrid x k with
      | some digits => (digits, k)
      | none => search x count (k - 1)

/-- The digits and the power of ten of the shortest decimal of a positive double. -/
def shortest (x : Binary) : Nat × Int := search x 640 309

end DockerClient.Decimal
