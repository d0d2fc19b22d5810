import DockerClient.Encoding.Base64
import DockerClient.Text.Utf8
import Mathlib.Data.List.Basic

/-
**A byte sequence has one padded text.**

A text is read as whole groups of four symbols and a last group that may be padded.  Three bytes are
four *sextets*, numbers below 64, and whole groups are read by turning sextets back to bytes.  The
last group stands for one to three bytes; its padding says how many, and the bits that are left over
have to be zero.  So reading accepts nothing but what is written for some bytes.

* `Base64.values_eq_ok_iff`, `Base64.of_lastGroup` — what is read as symbols, and what as the symbols
  and the padding of a last group;
* `Base64.sextets` — the sextets of whole groups of three bytes; `Base64.groupBytes_sextets` and
  `Base64.sextets_groupBytes` — **sextets and bytes determine each other**;
* `Base64.of_lastBytes`, `Base64.lastBytes_encode` — **the last group** stands for one to three bytes;
* `Base64.encode_append` — writing goes group by group;
* `Base64.decode_encode`, `Base64.eq_encode_of_decode`, `Base64.decode_eq_ok_iff` — **reading accepts
  exactly what is written**;
* `Base64.exists_encode_eq` — what a padded text is made of.
-/

set_option relaxedAutoImplicit false
set_option autoImplicit false

namespace DockerClient.Base64

/-! ### Symbols -/

/-- The values of symbols: numbers of six bits. -/
def AreSextets (ns : List Nat) : Prop := ∀ n ∈ ns, n < 64

theorem areSextets_nil : AreSextets [] := fun _ h => absurd h List.not_mem_nil

theorem areSextets_cons {n : Nat} {ns : List Nat} :
    AreSextets (n :: ns) ↔ n < 64 ∧ AreSextets ns :=
  List.forall_mem_cons

/-- A byte has a value exactly if it is the symbol of the value. -/
theorem value?_eq_some_iff {b : UInt8} {n : Nat} : value? b = some n ↔ n < 64 ∧ symbol n = b := by
  constructor
  · exact symbol_of_value?
  · rintro ⟨hn, rfl⟩
    exact value?_symbol hn

/-- The standard alphabet. -/
example : (List.range 64).map symbol =
    Text.encode "ABCDEFGHIJKLMNOPQRSTUVWXYZabcdefghijklmnopqrstuvwxyz0123456789+/" := by rfl

theorem symbol_ne_pad {n : Nat} (h : n < 64) : symbol n ≠ pad := by
  revert n
  decide

/-- **What is read as symbols** is written with symbols. -/
theorem values_eq_ok_iff {offset : Nat} {text : List UInt8} {ns : List Nat} :
    values offset text = .ok ns ↔ AreSextets ns ∧ text = ns.map symbol := by
  induction text generalizing offset ns with
  | nil =>
      rw [values]
      constructor
      · intro h
        cases h
        exact ⟨areSextets_nil, rfl⟩
      · rintro ⟨-, h⟩
        rw [List.map_eq_nil_iff.mp h.symm]
  | cons b rest ih =>
      rw [values]
      constructor
      · intro h
        split at h
        · cases h
        · rename_i n hn
          split at h
          · rename_i ms hms
            cases h
            obtain ⟨hlt, rfl⟩ := value?_eq_some_iff.mp hn
            obtain ⟨hsextets, rfl⟩ := ih.mp hms
            exact ⟨areSextets_cons.mpr ⟨hlt, hsextets⟩, rfl⟩
          · cases h
      · rintro ⟨hsextets, htext⟩
        cases ns with
        | nil => cases htext
        | cons n ms =>
            obtain ⟨hlt, hms⟩ := areSextets_cons.mp hsextets
            rw [List.map_cons, List.cons.injEq] at htext
            obtain ⟨rfl, rfl⟩ := htext
            have hrest : values (offset + 1) (ms.map symbol) = .ok ms := ih.mpr ⟨hms, rfl⟩
            simp only [value?_symbol hlt, hrest]

/-! ### Whole groups -/

/-- The sextets of whole groups of three bytes. -/
def sextets : List UInt8 → List Nat
  | a :: b :: c :: rest =>
      a.toNat / 4 :: (a.toNat % 4 * 16 + b.toNat / 16) :: (b.toNat % 16 * 4 + c.toNat / 64)
        :: c.toNat % 64 :: sextets rest
  | _ => []

theorem areSextets_sextets : ∀ bytes : List UInt8, AreSextets (sextets bytes)
  | [] | [_] | [_, _] => areSextets_nil
  | a :: b :: c :: rest => by
      have ha := a.toNat_lt
      have hb := b.toNat_lt
      have hc := c.toNat_lt
      simp only [sextets, areSextets_cons]
      exact ⟨by omega, by omega, by omega, by omega, areSextets_sextets rest⟩

/-- Three bytes are four sextets. -/
theorem length_sextets : ∀ bytes : List UInt8, (sextets bytes).length = bytes.length / 3 * 4
  | [] => rfl
  | [_] | [_, _] => by simp [sextets]
  | a :: b :: c :: rest => by
      simp only [sextets, List.length_cons, length_sextets rest]
      omega

/-- **Bytes are what their sextets stand for.** -/
theorem groupBytes_sextets : ∀ {bytes : List UInt8}, bytes.length % 3 = 0 →
    groupBytes (sextets bytes) = bytes
  | [], _ => rfl
  | [_], h => by simp at h
  | [_, _], h => by simp at h
  | a :: b :: c :: rest, h => by
      have ha := a.toNat_lt
      have hb := b.toNat_lt
      have hc := c.toNat_lt
      have hrest : rest.length % 3 = 0 := by
        simp only [List.length_cons] at h
        omega
      have hfirst : a.toNat / 4 * 4 + (a.toNat % 4 * 16 + b.toNat / 16) / 16 = a.toNat := by omega
      have hsecond : (a.toNat % 4 * 16 + b.toNat / 16) % 16 * 16 +
          (b.toNat % 16 * 4 + c.toNat / 64) / 4 = b.toNat := by omega
      have hthird : (b.toNat % 16 * 4 + c.toNat / 64) % 4 * 64 + c.toNat % 64 = c.toNat := by omega
      rw [sextets, groupBytes, hfirst, hsecond, hthird, groupBytes_sextets hrest]
      simp only [UInt8.ofNat_toNat]

/-- Four sextets are three bytes. -/
theorem length_groupBytes : ∀ ns : List Nat, (groupBytes ns).length = ns.length / 4 * 3
  | [] => rfl
  | [_] | [_, _] | [_, _, _] => by simp [groupBytes]
  | w :: x :: y :: z :: rest => by
      simp only [groupBytes, List.length_cons, length_groupBytes rest]
      omega

/-- **Sextets are those of the bytes that they stand for.** -/
theorem sextets_groupBytes : ∀ {ns : List Nat}, AreSextets ns → ns.length % 4 = 0 →
    sextets (groupBytes ns) = ns
  | [], _, _ => rfl
  | [_], _, h => by simp at h
  | [_, _], _, h => by simp at h
  | [_, _, _], _, h => by simp at h
  | w :: x :: y :: z :: rest, hns, h => by
      simp only [areSextets_cons] at hns
      obtain ⟨hw, hx, hy, hz, hrest⟩ := hns
      have hlength : rest.length % 4 = 0 := by
        simp only [List.length_cons] at h
        omega
      have hfirst : (w * 4 + x / 16) % 256 = w * 4 + x / 16 := by omega
      have hsecond : (x % 16 * 16 + y / 4) % 256 = x % 16 * 16 + y / 4 := by omega
      have hthird : (y % 4 * 64 + z) % 256 = y % 4 * 64 + z := by omega
      simp only [groupBytes, sextets, UInt8.toNat_ofNat', Nat.reducePow, hfirst, hsecond, hthird,
        sextets_groupBytes hrest hlength, List.cons.injEq, and_true]
      exact ⟨by omega, by omega, by omega, by omega⟩

/-- **Writing goes group by group**: whole groups of three bytes are written by their sextets. -/
theorem encode_append : ∀ {front : List UInt8}, front.length % 3 = 0 → ∀ last : List UInt8,
    encode (front ++ last) = (sextets front).map symbol ++ encode last
  | [], _, _ => rfl
  | [_], h, _ => by simp at h
  | [_, _], h, _ => by simp at h
  | a :: b :: c :: rest, h, last => by
      have hrest : rest.length % 3 = 0 := by
        simp only [List.length_cons] at h
        omega
      simp only [List.cons_append, encode, sextets, List.map_cons, encode_append hrest last]

/-- What whole groups of sextets stand for is written with their symbols. -/
theorem encode_groupBytes {ns : List Nat} (hns : AreSextets ns) (h : ns.length % 4 = 0)
    (last : List UInt8) : encode (groupBytes ns ++ last) = ns.map symbol ++ encode last := by
  have hlength : (groupBytes ns).length % 3 = 0 := by
    rw [length_groupBytes]
    omega
  rw [encode_append hlength, sextets_groupBytes hns h]

/-! ### The last group -/

/-- **What is read as a last group**: symbols, unless its padding has begun, and then padding. -/
theorem of_lastGroup {offset i pads : Nat} {first : Option Nat} {text : List UInt8} {ns : List Nat}
    (h : lastGroup offset i first text = .ok (ns, pads)) :
    AreSextets ns ∧ text = ns.map symbol ++ List.replicate pads pad ∧ (first ≠ none → ns = []) := by
  induction text generalizing i first ns pads with
  | nil =>
      rw [lastGroup] at h
      cases h
      exact ⟨areSextets_nil, rfl, fun _ => rfl⟩
  | cons b rest ih =>
      rw [lastGroup.eq_def] at h
      dsimp only at h
      split at h
      · -- padding; none but padding follows it
        rename_i hb
        split at h
        · cases h
        · split at h
          · rename_i ms more hmore
            cases h
            obtain ⟨hsextets, hrest, hnone⟩ := ih hmore
            have hms : ns = [] := hnone (by cases first <;> simp)
            subst hms
            exact ⟨hsextets, by rw [hb, hrest, List.replicate_succ]; rfl, fun _ => rfl⟩
          · cases h
      · split at h
        · cases h
        · split at h
          · cases h
          · rename_i n hn
            split at h
            · rename_i ms more hmore
              cases h
              obtain ⟨hlt, rfl⟩ := value?_eq_some_iff.mp hn
              obtain ⟨hsextets, rfl, -⟩ := ih hmore
              exact ⟨areSextets_cons.mpr ⟨hlt, hsextets⟩, rfl, fun h => absurd rfl h⟩
            · cases h

/-- Two sextets with four bits to spare are one byte. -/
theorem encode_one {w x : Nat} (hw : w < 64) (hx : x < 64) (hspare : x % 16 = 0) :
    encode [UInt8.ofNat (w * 4 + x / 16)] = [symbol w, symbol x, pad, pad] := by
  have hbyte : (w * 4 + x / 16) % 256 = w * 4 + x / 16 := by omega
  have hfirst : (w * 4 + x / 16) / 4 = w := by omega
  have hsecond : (w * 4 + x / 16) % 4 * 16 = x := by omega
  simp only [encode, UInt8.toNat_ofNat', Nat.reducePow, hbyte, hfirst, hsecond]

/-- Three sextets with two bits to spare are two bytes. -/
theorem encode_two {w x y : Nat} (hw : w < 64) (hx : x < 64) (hy : y < 64) (hspare : y % 4 = 0) :
    encode [UInt8.ofNat (w * 4 + x / 16), UInt8.ofNat (x % 16 * 16 + y / 4)] =
      [symbol w, symbol x, symbol y, pad] := by
  have hbyte : (w * 4 + x / 16) % 256 = w * 4 + x / 16 := by omega
  have hbyte' : (x % 16 * 16 + y / 4) % 256 = x % 16 * 16 + y / 4 := by omega
  have hfirst : (w * 4 + x / 16) / 4 = w := by omega
  have hsecond : (w * 4 + x / 16) % 4 * 16 + (x % 16 * 16 + y / 4) / 16 = x := by omega
  have hthird : (x % 16 * 16 + y / 4) % 16 * 4 = y := by omega
  simp only [encode, UInt8.toNat_ofNat', Nat.reducePow, hbyte, hbyte', hfirst, hsecond, hthird]

/-- **A last group that is read** is what is written for the bytes. -/
theorem of_lastBytes {offset : Nat} {text bytes : List UInt8}
    (h : lastBytes offset text = .ok bytes) : text = encode bytes := by
  unfold lastBytes at h
  split at h
  · cases h
  · rename_i ns pads hgroup
    obtain ⟨hsextets, rfl, -⟩ := of_lastGroup hgroup
    split at h
    · cases h
    · rename_i htwo
      split at h
      · cases h
      · rename_i hfour
        -- two, three or four symbols, and the bits to spare are zero
        have hpads : pads = 4 - ns.length := by omega
        subst hpads
        match ns with
        | [] | [_] => exact absurd htwo (by simp)
        | [w, x] =>
            simp only [areSextets_cons] at hsextets
            dsimp only at h
            split at h
            · cases h
            · rename_i hspare
              cases h
              exact (encode_one hsextets.1 hsextets.2.1 (not_not.mp hspare)).symm
        | [w, x, y] =>
            simp only [areSextets_cons] at hsextets
            dsimp only at h
            split at h
            · cases h
            · rename_i hspare
              cases h
              exact (encode_two hsextets.1 hsextets.2.1 hsextets.2.2.1 (not_not.mp hspare)).symm
        | [w, x, y, z] =>
            cases h
            exact (encode_groupBytes hsextets (Nat.mod_self 4) []).symm
        | _ :: _ :: _ :: _ :: _ :: _ =>
            simp only [List.length_cons] at hfour
            omega

/-- The sextets of one or two bytes, the last of which has bits to spare, or of three. -/
def lastSextets : List UInt8 → List Nat
  | [a] => [a.toNat / 4, a.toNat % 4 * 16]
  | [a, b] => [a.toNat / 4, a.toNat % 4 * 16 + b.toNat / 16, b.toNat % 16 * 4]
  | bytes => sextets bytes

theorem areSextets_lastSextets : ∀ bytes : List UInt8, AreSextets (lastSextets bytes)
  | [] => areSextets_nil
  | [a] => by
      have ha := a.toNat_lt
      simp only [lastSextets, areSextets_cons]
      exact ⟨by omega, by omega, areSextets_nil⟩
  | [a, b] => by
      have ha := a.toNat_lt
      have hb := b.toNat_lt
      simp only [lastSextets, areSextets_cons]
      exact ⟨by omega, by omega, by omega, areSextets_nil⟩
  | a :: b :: c :: rest => areSextets_sextets (a :: b :: c :: rest)

/-- Padding after the first two symbols is read as padding. -/
theorem lastGroup_replicate (offset : Nat) {i : Nat} (hi : 2 ≤ i) (first : Option Nat)
    (pads : Nat) : lastGroup offset i first (List.replicate pads pad) = .ok ([], pads) := by
  induction pads generalizing i first with
  | zero => simp [lastGroup]
  | succ pads ih =>
      have hlate : ¬i < 2 := by omega
      rw [List.replicate_succ, lastGroup.eq_def]
      simp only [if_true, if_neg hlate, ih (Nat.le_succ_of_le hi)]

/-- Symbols with padding after the first two of them are read as such. -/
theorem lastGroup_append (offset i pads : Nat) {ns : List Nat} (hns : AreSextets ns)
    (hplace : 2 ≤ i + ns.length) :
    lastGroup offset i none (ns.map symbol ++ List.replicate pads pad) = .ok (ns, pads) := by
  induction ns generalizing i with
  | nil => exact lastGroup_replicate offset hplace none pads
  | cons n ns ih =>
      obtain ⟨hn, hns⟩ := areSextets_cons.mp hns
      have hplace' : 2 ≤ i + 1 + ns.length := by
        rw [List.length_cons] at hplace
        omega
      rw [List.map_cons, List.cons_append, lastGroup.eq_def]
      simp only [if_neg (symbol_ne_pad hn), value?_symbol hn, ih (i + 1) hns hplace']

/-- What is written for one to three bytes is read as a last group. -/
theorem lastBytes_encode (offset : Nat) {bytes : List UInt8} (hne : bytes ≠ [])
    (hthree : bytes.length ≤ 3) : lastBytes offset (encode bytes) = .ok bytes := by
  match bytes with
  | [] => exact absurd rfl hne
  | [a] =>
      have ha := a.toNat_lt
      have hgroup : lastGroup offset 0 none (encode [a]) = .ok (lastSextets [a], 2) :=
        lastGroup_append offset 0 2 (areSextets_lastSextets [a]) (Nat.le_refl 2)
      have hspare : a.toNat % 4 * 16 % 16 = 0 := by omega
      have hbyte : a.toNat / 4 * 4 + a.toNat % 4 * 16 / 16 = a.toNat := by omega
      simp only [lastBytes, hgroup, lastSextets, List.length_cons, List.length_nil, Nat.reduceAdd,
        Nat.lt_irrefl, if_false, ne_eq, not_true, hspare, hbyte, UInt8.ofNat_toNat]
  | [a, b] =>
      have ha := a.toNat_lt
      have hb := b.toNat_lt
      have hgroup : lastGroup offset 0 none (encode [a, b]) = .ok (lastSextets [a, b], 1) :=
        lastGroup_append offset 0 1 (areSextets_lastSextets [a, b]) (Nat.le_succ 2)
      have hspare : b.toNat % 16 * 4 % 4 = 0 := by omega
      have hfirst : a.toNat / 4 * 4 + (a.toNat % 4 * 16 + b.toNat / 16) / 16 = a.toNat := by omega
      have hsecond : (a.toNat % 4 * 16 + b.toNat / 16) % 16 * 16 + b.toNat % 16 * 4 / 4 =
          b.toNat := by omega
      simp only [lastBytes, hgroup, lastSextets, List.length_cons, List.length_nil, Nat.reduceAdd,
        Nat.reduceLT, if_false, ne_eq, not_true, hspare, hfirst, hsecond, UInt8.ofNat_toNat]
  | [a, b, c] =>
      have hgroup : lastGroup offset 0 none (encode [a, b, c]) = .ok (sextets [a, b, c], 0) :=
        lastGroup_append offset 0 0 (areSextets_sextets [a, b, c]) (Nat.le_add_right 2 2)
      have hwhole : groupBytes (sextets [a, b, c]) = [a, b, c] := groupBytes_sextets (by simp)
      rw [lastBytes, hgroup]
      exact congrArg Except.ok hwhole
  | _ :: _ :: _ :: _ :: _ =>
      simp only [List.length_cons] at hthree
      omega

/-! ### Whole texts -/

theorem encode_eq_nil_iff {bytes : List UInt8} : encode bytes = [] ↔ bytes = [] := by
  match bytes with
  | [] | [_] | [_, _] | _ :: _ :: _ :: _ => simp [encode]

/-- What is written for one to three bytes has four symbols. -/
theorem length_encode_last {bytes : List UInt8} (hne : bytes ≠ []) (hthree : bytes.length ≤ 3) :
    (encode bytes).length = 4 := by
  match bytes with
  | [] => exact absurd rfl hne
  | [_] | [_, _] | [_, _, _] => simp [encode]
  | _ :: _ :: _ :: _ :: _ =>
      simp only [List.length_cons] at hthree
      omega

/-- Bytes are whole groups of three, and a last group of one to three. -/
theorem exists_groups {bytes : List UInt8} (hne : bytes ≠ []) :
    ∃ front last, bytes = front ++ last ∧ front.length % 3 = 0 ∧ last ≠ [] ∧ last.length ≤ 3 := by
  have hpos : 0 < bytes.length := List.length_pos_iff.mpr hne
  have hlength : (bytes.drop ((bytes.length - 1) / 3 * 3)).length =
      bytes.length - (bytes.length - 1) / 3 * 3 := List.length_drop
  refine ⟨bytes.take ((bytes.length - 1) / 3 * 3), bytes.drop ((bytes.length - 1) / 3 * 3),
    (List.take_append_drop ..).symm, ?_, ?_, ?_⟩
  · rw [List.length_take]
    omega
  · rw [← List.length_pos_iff]
    omega
  · omega

/-- A text of whole groups is cut before its last one. -/
theorem lastStart_append {front last : List UInt8} (hfront : front.length % 4 = 0)
    (hlast : last.length = 4) : lastStart (front ++ last) = front.length := by
  rw [lastStart, List.length_append]
  omega

/-- **A text that is read** is what is written for the bytes. -/
theorem eq_encode_of_decode {text bytes : List UInt8} (h : decode text = .ok bytes) :
    text = encode bytes := by
  unfold decode at h
  split at h
  · rename_i htext
    cases h
    exact htext
  · split at h
    · cases h
    · split at h
      · cases h
      · rename_i ns hns
        split at h
        · cases h
        · rename_i last hlast
          cases h
          obtain ⟨hsextets, hfront⟩ := values_eq_ok_iff.mp hns
          have hwhole : ns.length % 4 = 0 := by
            have hlength := congrArg List.length hfront
            rw [List.length_take, List.length_map, lastStart] at hlength
            omega
          rw [encode_groupBytes hsextets hwhole, ← hfront, ← of_lastBytes hlast]
          exact (List.take_append_drop ..).symm

/-- **What is written is read back.** -/
theorem decode_encode (bytes : List UInt8) : decode (encode bytes) = .ok bytes := by
  by_cases hne : bytes = []
  · subst hne
    rfl
  · obtain ⟨front, last, rfl, hfront, hlast, hthree⟩ := exists_groups hne
    have hfour : (encode last).length = 4 := length_encode_last hlast hthree
    have hmap : ((sextets front).map symbol).length % 4 = 0 := by
      rw [List.length_map, length_sextets]
      omega
    have hstart : lastStart ((sextets front).map symbol ++ encode last) =
        ((sextets front).map symbol).length := lastStart_append hmap hfour
    have hvalues : values 0 ((sextets front).map symbol) = .ok (sextets front) :=
      values_eq_ok_iff.mpr ⟨areSextets_sextets front, rfl⟩
    have hlone : loneByte ((sextets front).map symbol ++ encode last) = none := by
      rw [loneByte, List.length_append, if_neg]
      omega
    rw [decode, if_neg (mt encode_eq_nil_iff.mp hne), encode_append hfront, hlone, hstart,
      List.take_left, List.drop_left, hvalues, lastBytes_encode _ hlast hthree]
    dsimp only
    rw [groupBytes_sextets hfront]

/-- **Reading accepts exactly what is written.** -/
theorem decode_eq_ok_iff {text bytes : List UInt8} :
    decode text = .ok bytes ↔ text = encode bytes := by
  constructor
  · exact eq_encode_of_decode
  · rintro rfl
    exact decode_encode bytes

/-- Bits to spare that are not zero. -/
example : decode (Text.encode "dTo6w6l=") = .error (.trailingBits 108 6) := by rfl

/-- **What a padded text is made of**: symbols, and padding after them. -/
theorem exists_encode_eq : ∀ bytes : List UInt8, ∃ ns pads, AreSextets ns ∧
    encode bytes = ns.map symbol ++ List.replicate pads pad
  | [] => ⟨[], 0, areSextets_nil, rfl⟩
  | [a] => ⟨lastSextets [a], 2, areSextets_lastSextets [a], rfl⟩
  | [a, b] => ⟨lastSextets [a, b], 1, areSextets_lastSextets [a, b], rfl⟩
  | a :: b :: c :: rest => by
      obtain ⟨ns, pads, hns, hrest⟩ := exists_encode_eq rest
      refine ⟨sextets [a, b, c] ++ ns, pads, ?_, ?_⟩
      · intro n hn
        rcases List.mem_append.mp hn with hn | hn
        · exact areSextets_sextets _ n hn
        · exact hns n hn
      · rw [encode, hrest]
        rfl

end DockerClient.Base64
