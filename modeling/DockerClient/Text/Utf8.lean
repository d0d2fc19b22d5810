/-
**UTF-8.**

* `Text.encode` — the bytes of a text;
* `Text.decode?` — the text of a byte sequence, if the bytes are well formed;
* `Text.decode?_eq_some_iff` — **the two are inverse to each other**;
* `Text.decodeLossy` — the text of any byte sequence, with U+FFFD in place of every maximal
  ill-formed piece.
-/

set_option relaxedAutoImplicit false
set_option autoImplicit false

namespace DockerClient.Text

/-- The bytes of a text. -/
def encode (s : String) : List UInt8 :=
  s.toUTF8.data.toList

/-- The text whose bytes are given, if they are well formed. -/
def decode? (bytes : List UInt8) : Option String :=
  String.fromUTF8? ⟨bytes.toArray⟩

/-- **Decoding inverts encoding**, and nothing else decodes. -/
theorem decode?_eq_some_iff {bytes : List UInt8} {s : String} :
    decode? bytes = some s ↔ encode s = bytes := by
  unfold decode? encode String.fromUTF8?
  constructor
  · intro h
    split at h
    · simp only [Option.some.injEq] at h
      subst h
      simp [String.toUTF8, String.fromUTF8]
    · simp at h
  · rintro rfl
    have hv : (⟨s.toUTF8.data.toList.toArray⟩ : ByteArray) = s.toByteArray := by
      apply ByteArray.ext; simp [String.toUTF8]
    have : (⟨s.toUTF8.data.toList.toArray⟩ : ByteArray).IsValidUTF8 := by
      rw [hv]; exact s.isValidUTF8
    rw [dif_pos this]
    congr 1

theorem decode?_encode (s : String) : decode? (encode s) = some s :=
  decode?_eq_some_iff.mpr rfl

theorem encode_injective {s t : String} (h : encode s = encode t) : s = t := by
  have := decode?_encode s
  rw [h, decode?_encode] at this
  exact (Option.some.inj this).symm

/-! ### Any byte sequence -/

/-- A character whose first bytes have been read: how many more it needs, the range of the next
one, and the value so far. -/
structure Unfinished where
  owed : Nat
  low : UInt8
  high : UInt8
  value : Nat

/-- What a byte begins. -/
inductive Start where
  | whole (c : Char)
  | lead (u : Unfinished)
  | stray

/-- The first byte of a character fixes its length and the range of its second byte. -/
def start (b : UInt8) : Start :=
  if b ≤ 0x7F then .whole (Char.ofNat b.toNat)
  else if 0xC2 ≤ b ∧ b ≤ 0xDF then .lead ⟨1, 0x80, 0xBF, b.toNat - 0xC0⟩
  else if b = 0xE0 then .lead ⟨2, 0xA0, 0xBF, 0⟩
  else if b = 0xED then .lead ⟨2, 0x80, 0x9F, 0xD⟩
  else if 0xE1 ≤ b ∧ b ≤ 0xEF then .lead ⟨2, 0x80, 0xBF, b.toNat - 0xE0⟩
  else if b = 0xF0 then .lead ⟨3, 0x90, 0xBF, 0⟩
  else if 0xF1 ≤ b ∧ b ≤ 0xF3 then .lead ⟨3, 0x80, 0xBF, b.toNat - 0xF0⟩
  else if b = 0xF4 then .lead ⟨3, 0x80, 0x8F, 4⟩
  else .stray

/-- U+FFFD, the mark of an ill-formed piece. -/
def replacement : Char := '\uFFFD'

/-- The characters of a byte sequence, after the given unfinished character.  A byte that cannot
continue that character ends it and is read again as a first byte. -/
def lossyChars : Option Unfinished → List UInt8 → List Char
  | none, [] => []
  | some _, [] => [replacement]
  | none, b :: rest =>
      match start b with
      | .whole c => c :: lossyChars none rest
      | .lead u => lossyChars (some u) rest
      | .stray => replacement :: lossyChars none rest
  | some u, b :: rest =>
      if u.low ≤ b ∧ b ≤ u.high then
        if u.owed = 1 then Char.ofNat (u.value * 64 + b.toNat % 64) :: lossyChars none rest
        else lossyChars (some ⟨u.owed - 1, 0x80, 0xBF, u.value * 64 + b.toNat % 64⟩) rest
      else
        replacement ::
          match start b with
          | .whole c => c :: lossyChars none rest
          | .lead v => lossyChars (some v) rest
          | .stray => replacement :: lossyChars none rest

/-- The text of any byte sequence, with U+FFFD for every maximal ill-formed piece. -/
def decodeLossy (bytes : List UInt8) : String :=
  String.ofList (lossyChars none bytes)

end DockerClient.Text
