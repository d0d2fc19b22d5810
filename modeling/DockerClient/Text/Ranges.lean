/-
**Ranges of characters**, given by the numbers of their ends.

* `Text.isWithin` — whether a character lies in one of some ranges.
-/

set_option relaxedAutoImplicit false
set_option autoImplicit false

namespace DockerClient.Text

/-- Whether the number of a character lies in one of some ranges, ends included. -/
def isWithin (ranges : List (Nat × Nat)) (c : Char) : Bool :=
  ranges.any fun (first, last) => decide (first ≤ c.toNat) && decide (c.toNat ≤ last)

end DockerClient.Text
