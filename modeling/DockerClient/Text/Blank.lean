/-
**White space.**

* `Text.isBlank` — the characters with the Unicode property `White_Space`;
* `Text.trim` — a text without the white space at its ends.
-/

set_option relaxedAutoImplicit false
set_option autoImplicit false

namespace DockerClient.Text

/-- The characters with the Unicode property `White_Space`. -/
def isBlank (c : Char) : Bool :=
  (0x09 ≤ c.toNat && c.toNat ≤ 0x0D) || c.toNat == 0x20 || c.toNat == 0x85 || c.toNat == 0xA0
    || c.toNat == 0x1680 || (0x2000 ≤ c.toNat && c.toNat ≤ 0x200A) || c.toNat == 0x2028
    || c.toNat == 0x2029 || c.toNat == 0x202F || c.toNat == 0x205F || c.toNat == 0x3000

/-- The characters without the white space at both ends. -/
def trimChars (s : List Char) : List Char :=
  ((s.dropWhile isBlank).reverse.dropWhile isBlank).reverse

/-- The text without the white space at both ends. -/
def trim (s : String) : String :=
  String.ofList (trimChars s.toList)

end DockerClient.Text
