import DockerClient.Json.Value
import DockerClient.Proofs.HostKeys

/-
**Reading what was written.**

The written form of a value is read as what was written, whatever follows it that does not go on with
a number.  Doubles are left out: of numbers only those are covered that are whole and fit 64 bits.

* `Json.textOf?_escape` — **a string is read as it was written**;
* `Json.number_write`, `Json.Number.read?_write` — a whole number, up to its end and as a number;
* `Json.Value.IsWhole`, `Json.Value.toRaw` — values without doubles, and values as they are written;
* `Json.Value.items_writeItems`, `Json.Value.members_writeMembers`, `Json.Value.readsBack_of_isWhole` —
  elements, members, and a value;
* `Json.Value.read_write` — **a whole text is read as it was written**;
* `Json.Value.ofRaw?_toRaw` — **a value that was read is read again**, in its levels of nesting.
-/

set_option relaxedAutoImplicit false
set_option autoImplicit false

namespace DockerClient.Json

/-! ### Strings -/

/-- The ways in which a byte is written between quotes: with a letter, with its digits, as it is. -/
inductive Escaped (b : UInt8) : List UInt8 → Prop
  | short {e : UInt8} (h : shortEscape? e = some b) : Escaped b [0x5C, e]
  | hex (h : b < 0x20) :
      Escaped b [0x5C, 0x75, 0x30, 0x30, hexByte (b.toNat / 16), hexByte (b.toNat % 16)]
  | plain (hquote : b ≠ 0x22) (hslash : b ≠ 0x5C) (h : ¬b < 0x20) : Escaped b [b]

theorem escaped_escapeByte (b : UInt8) : Escaped b (escapeByte b) := by
  rw [escapeByte]
  iterate 7
    split
    · rename_i h
      subst h
      exact .short (by decide)
  split
  · rename_i h
    exact .hex h
  · rename_i hquote hslash _ _ _ _ _ h
    exact .plain hquote hslash h

/-- A digit is read as it was written. -/
theorem hexValue?_hexByte {n : Nat} (h : n < 16) : hexValue? (hexByte n) = some n := by
  revert n
  decide

theorem hexValue?_high (b : UInt8) : hexValue? (hexByte (b.toNat / 16)) = some (b.toNat / 16) :=
  hexValue?_hexByte (by have := b.toNat_lt; omega)

theorem hexValue?_low (b : UInt8) : hexValue? (hexByte (b.toNat % 16)) = some (b.toNat % 16) :=
  hexValue?_hexByte (by omega)

theorem hexValue?_zero : hexValue? 0x30 = some 0 := by decide

theorem hex4?_hexByte (b : UInt8) :
    hex4? 0x30 0x30 (hexByte (b.toNat / 16)) (hexByte (b.toNat % 16)) = some b.toNat := by
  rw [hex4?, hexValue?_zero, hexValue?_high, hexValue?_low]
  simp only [Option.some.injEq]
  omega

/-- A control character is one byte. -/
theorem charBytes_of_lt {b : UInt8} (h : b < 0x20) : charBytes b.toNat = [b] := by
  have hall : ∀ n < 32, charBytes n = [UInt8.ofNat n] := by decide
  rw [hall b.toNat h, UInt8.ofNat_toNat]

/-- No string ends within what stands for a byte. -/
theorem stringBody_escapeByte (b : UInt8) (rest : List UInt8) :
    stringBody (escapeByte b ++ rest) =
      (stringBody rest).map fun r => (escapeByte b ++ r.1, r.2) := by
  have hescaped := escaped_escapeByte b
  generalize escapeByte b = text at hescaped
  cases hescaped with
  | @short e h => simp [stringBody.eq_def (0x5C :: _), h]
  | hex h =>
      have hletter : shortEscape? 0x75 = none := by decide
      simp [stringBody.eq_def (0x5C :: _), hletter, hexValue?_zero, hexValue?_high, hexValue?_low]
  | plain hquote hslash h => simp [stringBody.eq_def (b :: _), hquote, hslash, h]

/-- What stands for a byte is read as that byte. -/
theorem unescape_escapeByte (b : UInt8) (rest : List UInt8) :
    unescape (escapeByte b ++ rest) = (unescape rest).map (b :: ·) := by
  have hescaped := escaped_escapeByte b
  generalize escapeByte b = text at hescaped
  cases hescaped with
  | @short e h => simp [unescape.eq_def (0x5C :: _), h]
  | hex h =>
      have hletter : shortEscape? 0x75 = none := by decide
      -- a byte is no half of a surrogate pair
      have hhigh : isHigh b.toNat = false := by
        have := b.toNat_lt
        simp only [isHigh, Bool.and_eq_false_iff, decide_eq_false_iff_not]
        omega
      have hlow : isLow b.toNat = false := by
        have := b.toNat_lt
        simp only [isLow, Bool.and_eq_false_iff, decide_eq_false_iff_not]
        omega
      simp [unescape.eq_def (0x5C :: _), hletter, hex4?_hexByte, hhigh, hlow, charBytes_of_lt h]
  | plain hquote hslash h => simp [unescape.eq_def (b :: _), hslash]

/-- A string ends where its closing quote was written. -/
theorem stringBody_escape (bytes rest : List UInt8) :
    stringBody (escape bytes ++ 0x22 :: rest) = .ok (escape bytes, rest) := by
  induction bytes with
  | nil => simp [escape, stringBody.eq_def]
  | cons b bytes ih =>
      have hcons : escape (b :: bytes) = escapeByte b ++ escape bytes := List.flatMap_cons
      rw [hcons, List.append_assoc, stringBody_escapeByte, ih]
      rfl

theorem unescape_escape (bytes : List UInt8) : unescape (escape bytes) = some bytes := by
  induction bytes with
  | nil => rfl
  | cons b bytes ih =>
      have hcons : escape (b :: bytes) = escapeByte b ++ escape bytes := List.flatMap_cons
      rw [hcons, unescape_escapeByte, ih]
      rfl

/-- **A string is read as it was written.** -/
theorem textOf?_escape (s : String) : textOf? (escape (Text.encode s)) = some s := by
  rw [textOf?, unescape_escape]
  exact Text.decode?_encode s

/-! ### Whole numbers -/

namespace Number

/-- A number that is whole and fits 64 bits, with a sign or without. -/
def IsWhole : Number → Prop
  | .integer i => -0x8000000000000000 ≤ i ∧ i < 0x10000000000000000
  | .double _ => False

/-- The byte of a digit. -/
def digitByte (d : Nat) : UInt8 := UInt8.ofNat (0x30 + d)

/-- The last digit, after those of the tenth part if there is any. -/
theorem digitsOf_eq (n : Nat) :
    digitsOf n = if n < 10 then [digitByte n] else digitsOf (n / 10) ++ [digitByte (n % 10)] := by
  have hbyte {d : Nat} (h : d < 10) : UInt8.ofNat d.digitChar.toNat = digitByte d := by
    rw [Nat.toNat_digitChar_of_lt_ten h, digitByte, Nat.add_comm]
  rw [digitsOf, Nat.toDigits_eq_if (by decide)]
  split
  · rename_i h
    rw [List.map_singleton, hbyte h]
  · rw [List.map_append, List.map_singleton, hbyte (Nat.mod_lt n (by decide))]
    rfl

theorem isDigit_digitByte {d : Nat} (h : d < 10) : isDigit (digitByte d) = true := by
  revert d
  decide

theorem digit_digitByte {d : Nat} (h : d < 10) : digit (digitByte d) = d := by
  revert d
  decide

theorem digitByte_ne {d : Nat} (hpos : 0 < d) (h : d < 10) : digitByte d ≠ 0x30 := by
  have hall : ∀ d < 10, 0 < d → digitByte d ≠ 0x30 := by decide
  exact hall d h hpos

theorem isDigit_of_mem_digitsOf {n : Nat} {b : UInt8} (h : b ∈ digitsOf n) : isDigit b = true := by
  induction n using Nat.strongRecOn with
  | _ n ih =>
      rw [digitsOf_eq] at h
      split at h
      · rename_i hn
        rw [List.mem_singleton.mp h]
        exact isDigit_digitByte hn
      · rcases List.mem_append.mp h with h | h
        · exact ih (n / 10) (by omega) h
        · rw [List.mem_singleton.mp h]
          exact isDigit_digitByte (by omega)

theorem decimal_digitsOf (n : Nat) : decimal (digitsOf n) = n := by
  induction n using Nat.strongRecOn with
  | _ n ih =>
      rw [digitsOf_eq]
      split
      · rename_i hn
        simp [decimal, digit_digitByte hn]
      · have hlast : digit (digitByte (n % 10)) = n % 10 := digit_digitByte (by omega)
        have hfirst := ih (n / 10) (by omega)
        rw [decimal] at hfirst ⊢
        rw [List.foldl_append, hfirst, List.foldl_cons, List.foldl_nil, hlast]
        omega

/-- A number begins with a digit, and only zero begins with a zero. -/
theorem exists_digitsOf_eq_cons (n : Nat) :
    ∃ d rest, digitsOf n = digitByte d :: rest ∧ d < 10 ∧ (d = 0 → rest = []) ∧ (0 < n → 0 < d) := by
  induction n using Nat.strongRecOn with
  | _ n ih =>
      rw [digitsOf_eq]
      split
      · rename_i hn
        exact ⟨n, [], rfl, hn, fun _ => rfl, id⟩
      · obtain ⟨d, rest, hdigits, hd, -, hpos⟩ := ih (n / 10) (by omega)
        have hd0 : 0 < d := hpos (by omega)
        rw [hdigits]
        exact ⟨d, rest ++ [digitByte (n % 10)], rfl, hd, by omega, fun _ => hd0⟩

theorem le_foldl_digit (acc : Nat) (ds : List UInt8) :
    acc ≤ ds.foldl (fun acc b => acc * 10 + digit b) acc := by
  induction ds generalizing acc with
  | nil => exact Nat.le_refl _
  | cons b rest ih =>
      have := ih (acc * 10 + digit b)
      rw [List.foldl_cons]
      omega

/-- Digits are all collected if their value fits. -/
theorem collect_eq {acc : Nat} {ds : List UInt8}
    (h : ds.foldl (fun acc b => acc * 10 + digit b) acc ≤ limit) :
    collect acc ds = (ds.foldl (fun acc b => acc * 10 + digit b) acc, 0) := by
  induction ds generalizing acc with
  | nil => rfl
  | cons b rest ih =>
      rw [List.foldl_cons] at h
      have hfits : acc * 10 + digit b ≤ limit := Nat.le_trans (le_foldl_digit _ rest) h
      rw [collect, if_pos hfits, ih h, List.foldl_cons]

end Number

/-- What may follow a number: nothing that would go on with it. -/
def Closes (rest : List UInt8) : Prop :=
  ∀ b ∈ rest.head?, isDigit b = false ∧ b ≠ 0x2E ∧ b ≠ 0x65 ∧ b ≠ 0x45

theorem closes_nil : Closes [] := fun _ hb => by cases hb

theorem closes_of {b : UInt8} (h : isDigit b = false ∧ b ≠ 0x2E ∧ b ≠ 0x65 ∧ b ≠ 0x45)
    (rest : List UInt8) : Closes (b :: rest) := by
  intro c hc
  cases hc
  exact h

theorem takeWhile_digitsOf (n : Nat) {rest : List UInt8} (h : Closes rest) :
    (Number.digitsOf n ++ rest).takeWhile isDigit = Number.digitsOf n ∧
      (Number.digitsOf n ++ rest).dropWhile isDigit = rest := by
  have hall : ∀ b ∈ Number.digitsOf n, isDigit b = true := fun _ => Number.isDigit_of_mem_digitsOf
  rw [List.takeWhile_append_of_pos hall, List.dropWhile_append_of_pos hall]
  cases rest with
  | nil => simp
  | cons b after =>
      have hb : isDigit b = false := (h b rfl).1
      simp [hb]

/-- The digits of a number end where they were written to end. -/
theorem wholePart_digitsOf (n : Nat) {rest : List UInt8} (h : Closes rest) :
    wholePart (Number.digitsOf n ++ rest) = .ok (Number.digitsOf n, rest) := by
  obtain ⟨htake, hdrop⟩ := takeWhile_digitsOf n h
  obtain ⟨d, after, hdigits, hd, hzero, -⟩ := Number.exists_digitsOf_eq_cons n
  have hread : digits (Number.digitsOf n ++ rest) = .ok (Number.digitsOf n, rest) := by
    unfold digits
    rw [htake, hdrop, hdigits]
  rw [wholePart, hread]
  dsimp only
  -- a leading zero is refused, but only zero itself begins with one
  refine if_neg ?_
  rintro ⟨hhead, hlength⟩
  rw [hdigits, List.head?_cons, Option.some.injEq] at hhead
  have hd0 : d = 0 := by
    by_contra hne
    exact Number.digitByte_ne (Nat.pos_of_ne_zero hne) hd hhead
  rw [hdigits, hzero hd0] at hlength
  exact hlength rfl

theorem fraction_of_closes {rest : List UInt8} (h : Closes rest) : fraction rest = .ok ([], rest) := by
  cases rest with
  | nil => rfl
  | cons b after => exact if_neg (h b rfl).2.1

theorem exponent_of_closes {rest : List UInt8} (h : Closes rest) : exponent rest = .ok ([], rest) := by
  cases rest with
  | nil => rfl
  | cons b after =>
      have hb := (h b rfl).2.2
      exact if_neg (not_or.mpr hb)

theorem sign_digitsOf (n : Nat) (rest : List UInt8) :
    sign (Number.digitsOf n ++ rest) = ([], Number.digitsOf n ++ rest) := by
  obtain ⟨d, after, hdigits, hd, -, -⟩ := Number.exists_digitsOf_eq_cons n
  have hminus : Number.digitByte d ≠ 0x2D := by
    have hall : ∀ d < 10, Number.digitByte d ≠ 0x2D := by decide
    exact hall d hd
  rw [hdigits]
  exact if_neg hminus

/-- **A whole number ends where it was written to end.** -/
theorem number_write (i : Int) {rest : List UInt8} (h : Closes rest) :
    number ((Number.integer i).write ++ rest) = .ok ((Number.integer i).write, rest) := by
  rw [Number.write]
  split
  · have hsign : sign (0x2D :: Number.digitsOf i.natAbs ++ rest) =
        ([0x2D], Number.digitsOf i.natAbs ++ rest) := rfl
    rw [number, hsign, wholePart_digitsOf _ h]
    simp [fraction_of_closes h, exponent_of_closes h]
  · rw [number, sign_digitsOf, wholePart_digitsOf _ h]
    simp [fraction_of_closes h, exponent_of_closes h]

/-- **A whole number is read as it was written.** -/
theorem Number.read?_write {n : Number} (h : n.IsWhole) : read? n.write = some n := by
  cases n with
  | double bits => exact h.elim
  | integer i =>
      obtain ⟨hlow, hhigh⟩ := h
      have hlimit : limit = 18446744073709551615 := by decide
      have hcollect : collect 0 (digitsOf i.natAbs) = (i.natAbs, 0) := by
        have hvalue : (digitsOf i.natAbs).foldl (fun acc b => acc * 10 + digit b) 0 = i.natAbs :=
          decimal_digitsOf _
        rw [collect_eq (by rw [hvalue, hlimit]; omega), hvalue]
      obtain ⟨htake, hdrop⟩ := takeWhile_digitsOf i.natAbs closes_nil
      rw [List.append_nil] at htake hdrop
      rw [write]
      split
      · rename_i hneg
        have hsign : sign (0x2D :: digitsOf i.natAbs) = ([0x2D], digitsOf i.natAbs) := rfl
        rw [read?, hsign]
        simp only [htake, hdrop]
        rw [assemble, hcollect]
        have hpow : Nat.pow 2 63 = 9223372036854775808 := by decide
        have hfits : ¬(i.natAbs = 0 ∨ Nat.pow 2 63 < i.natAbs) := by
          rw [hpow]
          omega
        have hvalue : (-(i.natAbs : Int)) = i := by omega
        simp only [ne_eq, reduceCtorEq, not_false_eq_true, decide_true, Bool.not_true, and_self,
          if_true, Bool.false_eq_true, if_false, if_neg hfits, hvalue]
      · rename_i hneg
        have hsign := sign_digitsOf i.natAbs []
        rw [List.append_nil] at hsign
        rw [read?, hsign]
        simp only [htake, hdrop]
        rw [assemble, hcollect]
        have hvalue : (i.natAbs : Int) = i := by omega
        simp [hvalue]

/-! ### Values -/

namespace Value

/-- A value whose numbers are all whole. -/
inductive IsWhole : Value → Prop
  | null : IsWhole .null
  | bool (b : Bool) : IsWhole (.bool b)
  | number {n : Number} (h : n.IsWhole) : IsWhole (.number n)
  | string (s : String) : IsWhole (.string s)
  | array {items : List Value} (h : ∀ v ∈ items, IsWhole v) : IsWhole (.array items)
  | object {members : List (String × Value)} (h : ∀ m ∈ members, IsWhole m.2) :
      IsWhole (.object members)

mutual

/-- A value as it is written. -/
def toRaw : Value → Raw
  | .null => .null
  | .bool b => .bool b
  | .number n => .number n.write
  | .string s => .string (escape (Text.encode s))
  | .array items => .array (itemsToRaw items)
  | .object members => .object (membersToRaw members)

/-- Elements as they are written. -/
def itemsToRaw : List Value → List Raw
  | [] => []
  | v :: rest => v.toRaw :: itemsToRaw rest

/-- Members as they are written. -/
def membersToRaw : List (String × Value) → List (List UInt8 × Raw)
  | [] => []
  | (k, v) :: rest => (escape (Text.encode k), v.toRaw) :: membersToRaw rest

end

theorem itemsToRaw_eq_map (items : List Value) : itemsToRaw items = items.map toRaw := by
  induction items with
  | nil => rfl
  | cons v rest ih => rw [itemsToRaw, ih, List.map_cons]

/-- The name and the value of a member as they are written. -/
def memberToRaw (m : String × Value) : List UInt8 × Raw := (escape (Text.encode m.1), m.2.toRaw)

theorem membersToRaw_eq_map (members : List (String × Value)) :
    membersToRaw members = members.map memberToRaw := by
  induction members with
  | nil => rfl
  | cons m rest ih => rw [membersToRaw, ih, List.map_cons, memberToRaw]

/-- A written value begins with a byte that is neither white space nor the end of an array. -/
theorem exists_write_eq_cons {v : Value} (h : v.IsWhole) :
    ∃ b rest, v.write = b :: rest ∧ isBlank b = false ∧ b ≠ 0x5D := by
  cases h with
  | null => exact ⟨_, _, by rw [write], by decide, by decide⟩
  | bool b => cases b <;> exact ⟨_, _, by rw [write], by decide, by decide⟩
  | @number n h =>
      cases n with
      | double bits => exact h.elim
      | integer i =>
          rw [write, Number.write]
          split
          · exact ⟨_, _, rfl, by decide, by decide⟩
          · obtain ⟨d, rest, hdigits, hd, -, -⟩ := Number.exists_digitsOf_eq_cons i.natAbs
            have hall : ∀ d < 10, isBlank (Number.digitByte d) = false ∧
              Number.digitByte d ≠ 0x5D := by decide
            exact ⟨_, rest, hdigits, hall d hd⟩
  | string s => exact ⟨0x22, _, by rw [write, quoted]; rfl, by decide, by decide⟩
  | array h => exact ⟨0x5B, _, by rw [write]; rfl, by decide, by decide⟩
  | object h => exact ⟨0x7B, _, by rw [write]; rfl, by decide, by decide⟩

/-- What is read of a written value, whatever closes it, if there are calls enough. -/
def ReadsBack (v : Value) : Prop :=
  ∀ fuel rest, Closes rest → v.write.length ≤ fuel →
    value fuel (v.write ++ rest) = .ok (v.toRaw, rest)

theorem skipBlank_of_not {b : UInt8} (h : isBlank b = false) (rest : List UInt8) :
    skipBlank (b :: rest) = b :: rest := by
  simp [skipBlank, h]

/-- **Elements are read as they were written**, if each of them is. -/
theorem items_writeItems {vs : List Value} (hne : vs ≠ []) (h : ∀ v ∈ vs, v.ReadsBack) (fuel : Nat)
    (rest : List UInt8) (hfuel : (writeItems vs).length + 1 ≤ fuel) :
    items fuel (writeItems vs ++ 0x5D :: rest) = .ok (vs.map toRaw, rest) := by
  induction vs generalizing fuel with
  | nil => exact absurd rfl hne
  | cons v vs ih =>
      obtain ⟨fuel, rfl⟩ := Nat.exists_eq_succ_of_ne_zero (show fuel ≠ 0 by omega)
      cases vs with
      | nil =>
          have hwrite : writeItems [v] = v.write := by rw [writeItems]
          rw [hwrite] at hfuel ⊢
          -- neither a bracket nor a comma goes on with a number
          have hread := h v (by simp) fuel (0x5D :: rest) (closes_of (by decide) rest) (by omega)
          rw [items, hread]
          dsimp only
          rw [skipBlank_of_not (by decide)]
          rfl
      | cons w vs =>
          have hwrite : writeItems (v :: w :: vs) = v.write ++ 0x2C :: writeItems (w :: vs) := by
            rw [writeItems]
            simp
          rw [hwrite] at hfuel ⊢
          rw [List.length_append, List.length_cons] at hfuel
          have hread := h v (by simp) fuel (0x2C :: (writeItems (w :: vs) ++ 0x5D :: rest))
            (closes_of (by decide) _) (by omega)
          have hrest := ih (by simp) (fun v hv => h v (List.mem_cons_of_mem _ hv)) fuel (by omega)
          rw [items, List.append_assoc, List.cons_append, hread]
          dsimp only
          rw [skipBlank_of_not (by decide)]
          dsimp only
          rw [hrest]
          rfl

theorem quoted_append (s : String) (rest : List UInt8) :
    quoted s ++ rest = 0x22 :: (escape (Text.encode s) ++ 0x22 :: rest) := by
  simp [quoted]

/-- The first member is read up to what follows it. -/
theorem members_member {k : String} {v : Value} {fuel : Nat} {b : UInt8} {after : List UInt8}
    (hb : isBlank b = false)
    (hread : value fuel (v.write ++ b :: after) = .ok (v.toRaw, b :: after)) :
    members (fuel + 1) (quoted k ++ 0x3A :: (v.write ++ b :: after)) =
      if b = 0x7D then .ok ([memberToRaw (k, v)], after)
      else if b = 0x2C then (members fuel after).map fun r => (memberToRaw (k, v) :: r.1, r.2)
      else .error .malformed := by
  rw [quoted_append, members, skipBlank_of_not (by decide)]
  dsimp only
  rw [if_neg (by decide), stringBody_escape]
  dsimp only
  rw [skipBlank_of_not (by decide)]
  dsimp only
  rw [if_neg (by decide), hread]
  dsimp only
  rw [skipBlank_of_not hb]
  rfl

/-- **Members are read as they were written**, if the value of each is. -/
theorem members_writeMembers {ms : List (String × Value)} (hne : ms ≠ [])
    (h : ∀ m ∈ ms, m.2.ReadsBack) (fuel : Nat) (rest : List UInt8)
    (hfuel : (writeMembers ms).length + 1 ≤ fuel) :
    members fuel (writeMembers ms ++ 0x7D :: rest) = .ok (ms.map memberToRaw, rest) := by
  induction ms generalizing fuel with
  | nil => exact absurd rfl hne
  | cons m ms ih =>
      obtain ⟨k, v⟩ := m
      obtain ⟨fuel, rfl⟩ := Nat.exists_eq_succ_of_ne_zero (show fuel ≠ 0 by omega)
      have hv : v.ReadsBack := h (k, v) (by simp)
      cases ms with
      | nil =>
          have hwrite : writeMembers [(k, v)] = quoted k ++ 0x3A :: v.write := by rw [writeMembers]
          rw [hwrite] at hfuel ⊢
          rw [List.length_append, List.length_cons] at hfuel
          have hread := hv fuel (0x7D :: rest) (closes_of (by decide) rest) (by omega)
          rw [List.append_assoc, List.cons_append, members_member (by decide) hread]
          rfl
      | cons w ms =>
          have hwrite : writeMembers ((k, v) :: w :: ms) =
              quoted k ++ 0x3A :: (v.write ++ 0x2C :: writeMembers (w :: ms)) := by
            rw [writeMembers]
            · simp
            · simp
          rw [hwrite] at hfuel ⊢
          simp only [List.length_append, List.length_cons] at hfuel
          have hread := hv fuel (0x2C :: (writeMembers (w :: ms) ++ 0x7D :: rest))
            (closes_of (by decide) _) (by omega)
          have hrest := ih (by simp) (fun m hm => h m (List.mem_cons_of_mem _ hm)) fuel (by omega)
          rw [List.append_assoc, List.cons_append, List.append_assoc, List.cons_append,
            members_member (by decide) hread, hrest]
          rfl

/-- Reading a written value takes a call. -/
theorem exists_fuel {v : Value} (h : v.IsWhole) {fuel : Nat} (hfuel : v.write.length ≤ fuel) :
    ∃ calls, fuel = calls + 1 := by
  obtain ⟨b, rest, hwrite, -, -⟩ := exists_write_eq_cons h
  rw [hwrite, List.length_cons] at hfuel
  exact ⟨fuel - 1, by omega⟩

/-- The first byte decides that a number is read. -/
theorem value_of_number {b : UInt8} (hb : b = 0x2D ∨ isDigit b = true) (s : List UInt8)
    (fuel : Nat) :
    value (fuel + 1) (b :: s) = (Json.number (b :: s)).map fun r => (.number r.1, r.2) := by
  have hne (c : UInt8) (hminus : c ≠ 0x2D) (hdigit : isDigit c = false) : b ≠ c := by
    rintro rfl
    rcases hb with h | h
    · exact hminus h
    · rw [h] at hdigit
      cases hdigit
  have hblank : isBlank b = false := by
    simp only [isBlank, Bool.or_eq_false_iff, beq_eq_false_iff_ne]
    exact ⟨⟨⟨hne _ (by decide) (by decide), hne _ (by decide) (by decide)⟩,
      hne _ (by decide) (by decide)⟩, hne _ (by decide) (by decide)⟩
  rw [value, skipBlank_of_not hblank]
  dsimp only
  rw [if_neg (hne 0x22 (by decide) (by decide)), if_neg (hne 0x5B (by decide) (by decide)),
    if_neg (hne 0x7B (by decide) (by decide)), if_neg (hne 0x74 (by decide) (by decide)),
    if_neg (hne 0x66 (by decide) (by decide)), if_neg (hne 0x6E (by decide) (by decide)), if_pos hb]

theorem exists_integer_write_eq_cons (i : Int) : ∃ b rest, (Number.integer i).write = b :: rest ∧
    (b = 0x2D ∨ isDigit b = true) := by
  rw [Number.write]
  split
  · exact ⟨_, _, rfl, .inl rfl⟩
  · obtain ⟨d, rest, hdigits, hd, -, -⟩ := Number.exists_digitsOf_eq_cons i.natAbs
    exact ⟨_, rest, hdigits, .inr (Number.isDigit_digitByte hd)⟩

/-- Elements begin with the first. -/
theorem exists_writeItems_eq_append (v : Value) (vs : List Value) :
    ∃ more, writeItems (v :: vs) = v.write ++ more := by
  cases vs with
  | nil => exact ⟨[], by rw [writeItems, List.append_nil]⟩
  | cons w vs => exact ⟨_, by rw [writeItems]; simp⟩

/-- Members begin with the name of the first. -/
theorem exists_writeMembers_eq_append (m : String × Value) (ms : List (String × Value)) :
    ∃ more, writeMembers (m :: ms) = quoted m.1 ++ more := by
  obtain ⟨k, v⟩ := m
  cases ms with
  | nil => exact ⟨_, by rw [writeMembers]⟩
  | cons w ms => exact ⟨_, by rw [writeMembers, List.append_assoc]; simp⟩

/-- **A value is read as it was written.** -/
theorem readsBack_of_isWhole {v : Value} (h : v.IsWhole) : v.ReadsBack := by
  induction h with
  | null =>
      intro fuel rest _ hfuel
      obtain ⟨fuel, rfl⟩ := exists_fuel .null hfuel
      rfl
  | bool b =>
      intro fuel rest _ hfuel
      obtain ⟨fuel, rfl⟩ := exists_fuel (.bool b) hfuel
      cases b <;> rfl
  | @number n h =>
      intro fuel rest hrest hfuel
      obtain ⟨fuel, rfl⟩ := exists_fuel (.number h) hfuel
      cases n with
      | double bits => exact h.elim
      | integer i =>
          have hread := number_write i hrest
          have hwrite : (number (.integer i)).write = (Number.integer i).write := by rw [write]
          obtain ⟨b, after, hcons, hb⟩ := exists_integer_write_eq_cons i
          rw [hwrite, toRaw]
          rw [hcons, List.cons_append] at hread ⊢
          rw [value_of_number hb, hread]
          rfl
  | string s =>
      intro fuel rest _ hfuel
      obtain ⟨fuel, rfl⟩ := exists_fuel (.string s) hfuel
      have hwrite : (string s).write = quoted s := by rw [write]
      rw [hwrite, quoted_append, value, skipBlank_of_not (by decide)]
      dsimp only
      rw [if_pos rfl, stringBody_escape]
      rfl
  | @array vs h ih =>
      intro fuel rest _ hfuel
      obtain ⟨fuel, rfl⟩ := exists_fuel (.array h) hfuel
      have hwrite : (array vs).write = 0x5B :: (writeItems vs ++ [0x5D]) := by rw [write]; rfl
      rw [hwrite, List.length_cons, List.length_append] at hfuel
      rw [hwrite, List.cons_append, List.append_assoc, value, skipBlank_of_not (by decide)]
      dsimp only
      rw [if_neg (by decide), if_pos rfl]
      -- an array without elements closes at once, and no element begins like the end of an array
      cases vs with
      | nil => rfl
      | cons v vs =>
          obtain ⟨more, hmore⟩ := exists_writeItems_eq_append v vs
          obtain ⟨b, after, hfirst, hblank, hend⟩ := exists_write_eq_cons (h v List.mem_cons_self)
          have hcons : writeItems (v :: vs) = b :: (after ++ more) := by rw [hmore, hfirst]; rfl
          have hread := items_writeItems (List.cons_ne_nil v vs) ih fuel rest (by simpa using hfuel)
          rw [hcons, List.cons_append] at hread
          rw [hcons, List.cons_append, skipBlank_of_not hblank]
          dsimp only
          rw [if_neg hend, List.singleton_append, hread, toRaw, itemsToRaw_eq_map]
          rfl
  | @object ms h ih =>
      intro fuel rest _ hfuel
      obtain ⟨fuel, rfl⟩ := exists_fuel (.object h) hfuel
      have hwrite : (object ms).write = 0x7B :: (writeMembers ms ++ [0x7D]) := by rw [write]; rfl
      rw [hwrite, List.length_cons, List.length_append] at hfuel
      rw [hwrite, List.cons_append, List.append_assoc, value, skipBlank_of_not (by decide)]
      dsimp only
      rw [if_neg (by decide), if_neg (by decide), if_pos rfl]
      cases ms with
      | nil => rfl
      | cons m ms =>
          obtain ⟨more, hmore⟩ := exists_writeMembers_eq_append m ms
          rw [quoted_append] at hmore
          have hread := members_writeMembers (List.cons_ne_nil m ms) ih fuel rest
            (by simpa using hfuel)
          rw [hmore, List.cons_append] at hread
          rw [hmore, List.cons_append, skipBlank_of_not (by decide)]
          dsimp only
          rw [if_neg (by decide), List.singleton_append, hread, toRaw, membersToRaw_eq_map]
          rfl

/-- **A whole text is read as it was written.** -/
theorem read_write {v : Value} (h : v.IsWhole) : Raw.read v.write = .ok v.toRaw := by
  have hread := readsBack_of_isWhole h (enough v.write) [] closes_nil (by rw [enough]; omega)
  rw [List.append_nil] at hread
  rw [Raw.read, hread]
  rfl

/-! ### Values that were read -/

theorem mem_itemsOfRaw? {levels : Nat} {items : List Raw} {vs : List Value}
    (h : itemsOfRaw? levels items = some vs) {v : Value} (hv : v ∈ vs) :
    ∃ item, ofRaw? levels item = some v := by
  induction items generalizing vs with
  | nil =>
      rw [itemsOfRaw?] at h
      cases h
      cases hv
  | cons item rest ih =>
      rw [itemsOfRaw?] at h
      split at h
      · rename_i first others hfirst hothers
        cases h
        rcases List.mem_cons.mp hv with rfl | hv
        · exact ⟨item, hfirst⟩
        · exact ih hothers hv
      · cases h

theorem mem_membersOfRaw? {levels : Nat} {members : List (List UInt8 × Raw)}
    {ms : List (String × Value)} (h : membersOfRaw? levels members = some ms) {m : String × Value}
    (hm : m ∈ ms) : ∃ item, ofRaw? levels item = some m.2 := by
  induction members generalizing ms with
  | nil =>
      rw [membersOfRaw?] at h
      cases h
      cases hm
  | cons member rest ih =>
      rw [membersOfRaw?] at h
      split at h
      · rename_i name first others hname hfirst hothers
        cases h
        rcases List.mem_cons.mp hm with rfl | hm
        · exact ⟨member.2, hfirst⟩
        · exact ih hothers hm
      · cases h

theorem itemsOfRaw?_map {levels : Nat} {vs : List Value}
    (h : ∀ v ∈ vs, ofRaw? levels v.toRaw = some v) :
    itemsOfRaw? levels (vs.map toRaw) = some vs := by
  induction vs with
  | nil => rfl
  | cons v rest ih =>
      rw [List.map_cons, itemsOfRaw?, h v List.mem_cons_self,
        ih fun w hw => h w (List.mem_cons_of_mem _ hw)]

theorem membersOfRaw?_map {levels : Nat} {ms : List (String × Value)}
    (h : ∀ m ∈ ms, ofRaw? levels m.2.toRaw = some m.2) :
    membersOfRaw? levels (ms.map memberToRaw) = some ms := by
  induction ms with
  | nil => rfl
  | cons m rest ih =>
      rw [List.map_cons, memberToRaw, membersOfRaw?, textOf?_escape, h m List.mem_cons_self,
        ih fun w hw => h w (List.mem_cons_of_mem _ hw)]

/-- An array was written as one, a level deeper than its elements. -/
theorem exists_items_of_ofRaw? {levels : Nat} {raw : Raw} {vs : List Value}
    (h : ofRaw? levels raw = some (.array vs)) :
    ∃ inner items, levels = inner + 1 ∧ itemsOfRaw? inner items = some vs := by
  cases levels with
  | zero => cases raw <;> simp [ofRaw?] at h
  | succ inner => cases raw <;> simp [ofRaw?] at h; exact ⟨inner, _, rfl, h⟩

/-- An object was written as one, a level deeper than its members. -/
theorem exists_members_of_ofRaw? {levels : Nat} {raw : Raw} {ms : List (String × Value)}
    (h : ofRaw? levels raw = some (.object ms)) :
    ∃ inner members given, levels = inner + 1 ∧ membersOfRaw? inner members = some given ∧
      (Table.ofList given).entries = ms := by
  cases levels with
  | zero => cases raw <;> simp [ofRaw?] at h
  | succ inner =>
      cases raw <;> simp [ofRaw?] at h
      obtain ⟨given, hgiven, hms⟩ := h
      exact ⟨inner, _, given, rfl, hgiven, hms⟩

/-- **A value that was read is read again** from what it is written as. -/
theorem ofRaw?_toRaw {v : Value} (hwhole : v.IsWhole) {levels : Nat} {raw : Raw}
    (h : ofRaw? levels raw = some v) : ofRaw? levels v.toRaw = some v := by
  induction hwhole generalizing levels raw with
  | null | bool b => cases levels <;> rfl
  | number hn => cases levels <;> simp [toRaw, ofRaw?, Number.read?_write hn]
  | string s => cases levels <;> simp [toRaw, ofRaw?, textOf?_escape]
  | @array vs _ ih =>
      obtain ⟨inner, items, rfl, hitems⟩ := exists_items_of_ofRaw? h
      have hall : ∀ v ∈ vs, ofRaw? inner v.toRaw = some v := by
        intro v hv
        obtain ⟨item, hitem⟩ := mem_itemsOfRaw? hitems hv
        exact ih v hv hitem
      rw [toRaw, itemsToRaw_eq_map, ofRaw?, itemsOfRaw?_map hall]
      rfl
  | @object ms _ ih =>
      obtain ⟨inner, members, given, rfl, hgiven, hms⟩ := exists_members_of_ofRaw? h
      have hall : ∀ m ∈ ms, ofRaw? inner m.2.toRaw = some m.2 := by
        intro m hm
        have hm' : m ∈ given := Table.mem_of_mem_ofList (hms ▸ hm)
        obtain ⟨item, hitem⟩ := mem_membersOfRaw? hgiven hm'
        exact ih m hm hitem
      -- members were sorted when they were read
      have hsame : (Table.ofList ms).entries = ms := by
        rw [← hms, Table.ofList_of_perm (.refl _)]
      rw [toRaw, membersToRaw_eq_map, ofRaw?, membersOfRaw?_map hall, Option.map_some, hsame]

end Value

end DockerClient.Json
