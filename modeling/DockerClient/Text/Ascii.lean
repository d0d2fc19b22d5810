/-
**ASCII letters and digits.**

* `Text.lower`, `Text.sameIgnoringCase` — ASCII letters in lower case, and equality up to their
  case;
* `Text.hexDigit`, `Text.hexOfByte` — lower-case hexadecimal digits;
* `Text.hexOfByte_injective` — two bytes with the same digits are the same byte;
* `Text.hexValue?` — the value of a hexadecimal digit of either case.
-/

set_option relaxedAutoImplicit false
set_option autoImplicit false

namespace DockerClient.Text

/-- The text with its ASCII letters in lower case. -/
def lower (s : String) : String :=
  String.ofList (s.toList.map Char.toLower)

theorem toLower_toLower (c : Char) : c.toLower.toLower = c.toLower := by
  unfold Char.toLower
  grind

@[simp] theorem lower_lower (s : String) : lower (lower s) = lower s := by
  have twice : Char.toLower ∘ Char.toLower = Char.toLower := funext toLower_toLower
  simp [lower, twice]

/-- Equality up to the case of ASCII letters. -/
def sameIgnoringCase (a b : String) : Bool :=
  lower a == lower b

/-! ### Hexadecimal -/

/-- The sixteen lower-case hexadecimal digits. -/
def hexDigits : List Char :=
  ['0', '1', '2', '3', '4', '5', '6', '7', '8', '9', 'a', 'b', 'c', 'd', 'e', 'f']

/-- The digit of a value below sixteen. -/
def hexDigit (n : Fin 16) : Char :=
  hexDigits[n]

/-- The value of a hexadecimal digit of either case. -/
def hexValue? (c : Char) : Option Nat :=
  if '0' ≤ c ∧ c ≤ '9' then some (c.toNat - 48)
  else if 'a' ≤ c ∧ c ≤ 'f' then some (c.toNat - 87)
  else if 'A' ≤ c ∧ c ≤ 'F' then some (c.toNat - 55)
  else none

/-- Whether a character is a hexadecimal digit. -/
def isHexDigit (c : Char) : Bool :=
  (hexValue? c).isSome

/-- The two digits of a byte, the high one first. -/
def hexOfByte (b : UInt8) : List Char :=
  [hexDigit ⟨b.toNat / 16, by have := b.toNat_lt; omega⟩, hexDigit ⟨b.toNat % 16, by omega⟩]

/-- Two digits for every byte. -/
def hexOfBytes (bytes : List UInt8) : String :=
  String.ofList (bytes.flatMap hexOfByte)

@[simp] theorem hexValue?_hexDigit (n : Fin 16) : hexValue? (hexDigit n) = some n.val := by
  revert n; decide

@[simp] theorem length_hexOfByte (b : UInt8) : (hexOfByte b).length = 2 := rfl

/-- The digits of a byte determine it. -/
theorem hexOfByte_injective {a b : UInt8} (h : hexOfByte a = hexOfByte b) : a = b := by
  simp only [hexOfByte, List.cons.injEq, and_true] at h
  have hi := congrArg hexValue? h.1
  have lo := congrArg hexValue? h.2
  simp only [hexValue?_hexDigit, Option.some.injEq] at hi lo
  have : a.toNat = b.toNat := by omega
  exact UInt8.toNat_inj.mp this

end DockerClient.Text
