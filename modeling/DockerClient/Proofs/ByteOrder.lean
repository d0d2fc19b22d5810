import DockerClient.Table
import DockerClient.Text.Utf8
import Mathlib.Algebra.Group.Nat.Defs
import Mathlib.Data.List.Basic

/-
**The order of texts is the order of their bytes.**

Texts are ordered by their characters, keys in files by their bytes.  The bytes of a character are a
lead, which grows with the number of bytes, and the digits of the character to base 64; so a
character comes before another exactly if its bytes do, whatever follows.

* `Text.continuation`, `Text.utf8EncodeChar_eq` — **the bytes of a character**: a lead and digits;
* `Text.continuation_lt`, `Text.utf8EncodeChar_append_lt` — the order of digits and of characters;
* `Text.encode_lt_encode_iff`, `Text.encode_le_encode_iff` — **the order of texts**.
-/

set_option relaxedAutoImplicit false
set_option autoImplicit false

namespace DockerClient.Text

/-! ### Bytes in order -/

theorem ofNat_cons_lt {a b : Nat} (hab : a < b) (hb : b < 256) (x y : List UInt8) :
    UInt8.ofNat a :: x < UInt8.ofNat b :: y := by
  refine List.cons_lt_cons_iff.mpr (.inl ?_)
  rw [UInt8.lt_iff_toNat_lt, UInt8.toNat_ofNat', UInt8.toNat_ofNat', Nat.mod_eq_of_lt hb,
    Nat.mod_eq_of_lt (Nat.lt_trans hab hb)]
  exact hab

theorem cons_lt_of_lt (a : UInt8) {x y : List UInt8} (h : x < y) : a :: x < a :: y :=
  List.cons_lt_cons_iff.mpr (.inr ⟨rfl, h⟩)

/-- The lowest digits of a number to base 64, as bytes that continue a character. -/
def continuation : Nat → Nat → List UInt8
  | 0, _ => []
  | n + 1, v => UInt8.ofNat (v / 64 ^ n % 64 + 128) :: continuation n v

/-- Numbers are in the order of their digits. -/
theorem continuation_lt {n v w : Nat} (h : v % 64 ^ n < w % 64 ^ n) (x y : List UInt8) :
    continuation n v ++ x < continuation n w ++ y := by
  induction n with
  | zero => simp [Nat.mod_one] at h
  | succ n ih =>
      rw [Nat.mod_pow_succ, Nat.mod_pow_succ] at h
      have hdigit : w / 64 ^ n % 64 < 64 := Nat.mod_lt _ (by decide)
      simp only [continuation, List.cons_append]
      rcases Nat.lt_trichotomy (v / 64 ^ n % 64) (w / 64 ^ n % 64) with hlt | heq | hgt
      · exact ofNat_cons_lt (by omega) (by omega) _ _
      · rw [heq] at h ⊢
        exact cons_lt_of_lt _ (ih (by omega))
      · -- a greater digit would outweigh all digits below it
        have hmul : 64 ^ n * (w / 64 ^ n % 64 + 1) ≤ 64 ^ n * (v / 64 ^ n % 64) :=
          Nat.mul_le_mul_left _ hgt
        have hrest : w % 64 ^ n < 64 ^ n := Nat.mod_lt _ (Nat.pow_pos (by decide))
        rw [Nat.mul_add, Nat.mul_one] at hmul
        omega

/-! ### Characters -/

/-- How many digits follow the lead of a character, what is added to its first digit, and the range
of the characters that are written so. -/
def leads : List (Nat × Nat × Nat × Nat) :=
  [(0, 0, 0, 0x80), (1, 0xC0, 0x80, 0x800), (2, 0xE0, 0x800, 0x10000),
    (3, 0xF0, 0x10000, 0x110000)]

/-- **The bytes of a character** are a lead and digits. -/
theorem utf8EncodeChar_eq (c : Char) :
    ∃ n lead low high, (n, lead, low, high) ∈ leads ∧ low ≤ c.toNat ∧ c.toNat < high ∧
      String.utf8EncodeChar c = UInt8.ofNat (c.toNat / 64 ^ n + lead) :: continuation n c.toNat := by
  have hvalid : c.toNat < 0x110000 := by
    have h := c.valid
    simp only [UInt32.isValidChar, Nat.isValidChar] at h
    exact h.elim (fun h => Nat.lt_trans h (by decide)) (·.2)
  have hval : c.val.toNat = c.toNat := rfl
  unfold String.utf8EncodeChar
  rw [hval]
  generalize c.toNat = v at hvalid
  dsimp only
  split
  · rename_i h
    exact ⟨0, 0, 0, 0x80, by simp [leads], by omega, by omega, by simp [continuation]⟩
  · split
    · rename_i h
      refine ⟨1, 0xC0, 0x80, 0x800, by simp [leads], by omega, by omega, ?_⟩
      have hlead : v / 64 % 32 = v / 64 := Nat.mod_eq_of_lt (by omega)
      simp [continuation, hlead]
    · split
      · rename_i h
        refine ⟨2, 0xE0, 0x800, 0x10000, by simp [leads], by omega, by omega, ?_⟩
        have hlead : v / 4096 % 16 = v / 4096 := Nat.mod_eq_of_lt (by omega)
        simp [continuation, hlead]
      · refine ⟨3, 0xF0, 0x10000, 0x110000, by simp [leads], by omega, by omega, ?_⟩
        have hlead : v / 262144 % 8 = v / 262144 := Nat.mod_eq_of_lt (by omega)
        simp [continuation, hlead]

/-- **Characters are in the order of their bytes**, whatever follows them. -/
theorem utf8EncodeChar_append_lt {c d : Char} (h : c < d) (x y : List UInt8) :
    String.utf8EncodeChar c ++ x < String.utf8EncodeChar d ++ y := by
  have hlt : c.toNat < d.toNat := h
  obtain ⟨n, lead, low, high, hmem, hlow, hhigh, hc⟩ := utf8EncodeChar_eq c
  obtain ⟨n', lead', low', high', hmem', hlow', hhigh', hd⟩ := utf8EncodeChar_eq d
  -- the lead alone decides unless both characters have as many digits and the same first one
  have hfirst : (c.toNat / 64 ^ n + lead < d.toNat / 64 ^ n' + lead' ∧
        d.toNat / 64 ^ n' + lead' < 256) ∨
      (n = n' ∧ c.toNat / 64 ^ n + lead = d.toNat / 64 ^ n' + lead' ∧
        c.toNat % 64 ^ n < d.toNat % 64 ^ n') := by
    simp only [leads, List.mem_cons, List.not_mem_nil, or_false, Prod.mk.injEq] at hmem hmem'
    rcases hmem with ⟨rfl, rfl, rfl, rfl⟩ | ⟨rfl, rfl, rfl, rfl⟩ | ⟨rfl, rfl, rfl, rfl⟩ |
      ⟨rfl, rfl, rfl, rfl⟩ <;>
    rcases hmem' with ⟨rfl, rfl, rfl, rfl⟩ | ⟨rfl, rfl, rfl, rfl⟩ | ⟨rfl, rfl, rfl, rfl⟩ |
      ⟨rfl, rfl, rfl, rfl⟩ <;>
    omega
  rw [hc, hd, List.cons_append, List.cons_append]
  rcases hfirst with ⟨hlead, hbyte⟩ | ⟨rfl, hlead, hrest⟩
  · exact ofNat_cons_lt hlead hbyte _ _
  · rw [hlead]
    exact cons_lt_of_lt _ (continuation_lt hrest x y)

/-! ### Texts -/

theorem encode_eq_flatMap (s : String) : encode s = s.toList.flatMap String.utf8EncodeChar := by
  rw [encode, String.toUTF8, ← String.utf8Encode_toList, List.utf8Encode]
  simp

theorem flatMap_utf8EncodeChar_lt {l m : List Char} (h : l < m) :
    l.flatMap String.utf8EncodeChar < m.flatMap String.utf8EncodeChar := by
  induction l generalizing m with
  | nil =>
      cases m with
      | nil => exact absurd h (List.lt_irrefl _)
      | cons d m =>
          rw [List.flatMap_nil, List.flatMap_cons]
          cases hd : String.utf8EncodeChar d with
          | nil => exact absurd hd String.utf8EncodeChar_ne_nil
          | cons b bs => exact List.nil_lt_cons b _
  | cons c l ih =>
      cases m with
      | nil => simp at h
      | cons d m =>
          rw [List.flatMap_cons, List.flatMap_cons]
          rcases List.cons_lt_cons_iff.mp h with hlt | ⟨rfl, hlt⟩
          · exact utf8EncodeChar_append_lt hlt _ _
          · exact List.append_left_lt (ih hlt)

/-- **Texts are in the order of their bytes.** -/
theorem encode_lt_encode_iff {s t : String} : encode s < encode t ↔ s < t := by
  have hmono {a b : String} (h : a < b) : encode a < encode b := by
    rw [encode_eq_flatMap, encode_eq_flatMap]
    exact flatMap_utf8EncodeChar_lt (String.lt_iff.mp h)
  refine ⟨fun h => ?_, hmono⟩
  by_contra hnot
  by_cases heq : s = t
  · rw [heq] at h
    exact List.lt_irrefl _ h
  · exact List.lt_asymm h (hmono (Table.lt_of_not hnot heq))

theorem encode_le_encode_iff {s t : String} : encode s ≤ encode t ↔ s ≤ t := by
  rw [← List.not_lt, ← String.not_lt, encode_lt_encode_iff]

end DockerClient.Text
