import DockerClient.Text.Cut
import Mathlib.Data.List.Basic

/-
**Cutting strings**: the laws of cuts, read on strings.

`DockerClient.Text.Cut` proves the laws on lists of characters.  Host names and references are
strings, so everything that is said about them needs the same laws there.

* `Text.after?_eq_some_iff` — **what follows a lead** is what the text is made of after it;
* `Text.splitFirst_eq_some_iff`, `Text.splitLast_eq_some_iff` — **a cut is a decomposition** of the
  string around the separator;
* `Text.notMem_upTo`, `Text.upTo_of_notMem`, `Text.upTo_append` — the text before the first
  separator;
* `Text.isSome_cutAt_iff`, `Text.splitAt_append` — separators of several characters;
* `Text.intercalate_pieces`, `Text.pieces_intercalate` — **cutting everywhere and joining** undo
  each other;
* `Text.pieces_around`, `Text.mem_iff_exists_mem_pieces` — the last piece, and what pieces are made
  of.
-/

set_option relaxedAutoImplicit false
set_option autoImplicit false

namespace DockerClient.Text

/-! ### Leads -/

/-- **What follows a lead** is what the text is made of after it. -/
theorem after?_eq_some_iff {lead s rest : String} :
    after? lead s = some rest ↔ s = lead ++ rest := by
  unfold after?
  rw [Option.map_eq_some_iff, ← String.toList_inj, String.toList_append]
  constructor
  · rintro ⟨l, hl, rfl⟩
    rw [String.toList_ofList]
    exact (List.isPrefixOf?_eq_some_iff_append_eq.mp hl).symm
  · intro h
    exact ⟨rest.toList, List.isPrefixOf?_eq_some_iff_append_eq.mpr h.symm, String.ofList_toList⟩

theorem after?_append (lead rest : String) : after? lead (lead ++ rest) = some rest :=
  after?_eq_some_iff.mpr rfl

theorem after?_eq_none_iff {lead s : String} :
    after? lead s = none ↔ ∀ rest, s ≠ lead ++ rest := by
  rw [Option.eq_none_iff_forall_ne_some]
  exact forall_congr' fun rest => not_congr after?_eq_some_iff

/-! ### One character -/

theorem map_both_eq_some_iff {parts : Option (List Char × List Char)} {a b : String} :
    parts.map both = some (a, b) ↔ parts = some (a.toList, b.toList) := by
  rw [Option.map_eq_some_iff]
  constructor
  · rintro ⟨⟨x, y⟩, rfl, h⟩
    simp only [both, Prod.mk.injEq] at h
    obtain ⟨rfl, rfl⟩ := h
    rw [String.toList_ofList, String.toList_ofList]
  · intro h
    exact ⟨_, h, by simp only [both, String.ofList_toList]⟩

theorem toList_around (a b : String) (c : Char) :
    (a ++ String.singleton c ++ b).toList = a.toList ++ c :: b.toList := by
  simp

/-- **A cut at the first separator** is the decomposition whose first part has none. -/
theorem splitFirst_eq_some_iff {s a b : String} {c : Char} :
    splitFirst s c = some (a, b) ↔ s = a ++ String.singleton c ++ b ∧ c ∉ a.toList := by
  rw [splitFirst, map_both_eq_some_iff, cutFirst_eq_some_iff, ← toList_around, String.toList_inj]

theorem splitFirst_eq_none_iff {s : String} {c : Char} :
    splitFirst s c = none ↔ c ∉ s.toList := by
  rw [splitFirst, Option.map_eq_none_iff, cutFirst_eq_none_iff]

/-- **A cut at the last separator** is the decomposition whose second part has none. -/
theorem splitLast_eq_some_iff {s a b : String} {c : Char} :
    splitLast s c = some (a, b) ↔ s = a ++ String.singleton c ++ b ∧ c ∉ b.toList := by
  rw [splitLast, map_both_eq_some_iff, cutLast_eq_some_iff, ← toList_around, String.toList_inj]

theorem splitLast_eq_none_iff {s : String} {c : Char} :
    splitLast s c = none ↔ c ∉ s.toList := by
  rw [splitLast, Option.map_eq_none_iff, cutLast_eq_none_iff]

/-- A text has one first cut. -/
theorem around_inj {a b x y : String} {c : Char} (ha : c ∉ a.toList) (hx : c ∉ x.toList)
    (h : a ++ String.singleton c ++ b = x ++ String.singleton c ++ y) : a = x ∧ b = y := by
  have hab : splitFirst (a ++ String.singleton c ++ b) c = some (a, b) :=
    splitFirst_eq_some_iff.mpr ⟨rfl, ha⟩
  rw [splitFirst_eq_some_iff.mpr ⟨h, hx⟩] at hab
  cases hab
  exact ⟨rfl, rfl⟩

/-- The text before the first separator has none. -/
theorem notMem_upTo (s : String) (c : Char) : c ∉ (upTo s c).toList := by
  unfold upTo
  split
  · rename_i h
    exact (splitFirst_eq_some_iff.mp h).2
  · rename_i h
    exact splitFirst_eq_none_iff.mp h

theorem upTo_of_notMem {s : String} {c : Char} (h : c ∉ s.toList) : upTo s c = s := by
  rw [upTo, splitFirst_eq_none_iff.mpr h]

theorem eq_singleton_of_toList {sep : String} {c : Char} (h : sep.toList = [c]) :
    sep = String.singleton c := by
  rw [← String.toList_inj, h, String.toList_singleton]

theorem upTo_append {a b sep : String} {c : Char} (hsep : sep.toList = [c]) (h : c ∉ a.toList) :
    upTo (a ++ sep ++ b) c = a := by
  rw [upTo, splitFirst_eq_some_iff.mpr ⟨by rw [eq_singleton_of_toList hsep], h⟩]

theorem splitLast_append {a b sep : String} {c : Char} (hsep : sep.toList = [c])
    (h : c ∉ b.toList) : splitLast (a ++ sep ++ b) c = some (a, b) :=
  splitLast_eq_some_iff.mpr ⟨by rw [eq_singleton_of_toList hsep], h⟩

/-! ### A longer separator -/

/-- A separator is found exactly if it occurs. -/
theorem isSome_cutAt_iff {sep s : List Char} : (cutAt sep s).isSome = true ↔ sep <:+: s := by
  induction s with
  | nil => cases sep <;> simp [cutAt]
  | cons d rest ih =>
      rw [List.infix_cons_iff, cutAt]
      cases hfront : sep.isPrefixOf? (d :: rest) with
      | some after =>
          have hopens : sep <+: d :: rest :=
            ⟨after, List.isPrefixOf?_eq_some_iff_append_eq.mp hfront⟩
          simp [hopens]
      | none =>
          have hopens : ¬sep <+: d :: rest := by
            rintro ⟨after, hafter⟩
            rw [List.isPrefixOf?_eq_some_iff_append_eq.mpr hafter] at hfront
            cases hfront
          simp [hopens, ih]

/-- A text is cut behind a part that lacks the first character of the separator. -/
theorem cutAt_append {c : Char} {sep a b : List Char} (h : c ∉ a) :
    cutAt (c :: sep) (a ++ (c :: sep ++ b)) = some (a, b) := by
  induction a with
  | nil =>
      have hfront : (c :: sep).isPrefixOf? (c :: (sep ++ b)) = some b :=
        List.isPrefixOf?_eq_some_iff_append_eq.mpr rfl
      simp [cutAt, hfront]
  | cons d a ih =>
      rw [List.mem_cons, not_or] at h
      have hfront : (c :: sep).isPrefixOf? (d :: (a ++ (c :: sep ++ b))) = none := by
        simp [List.isPrefixOf?, h.1]
      rw [List.cons_append, cutAt, hfront]
      simp only [ih h.2, Option.map_some]

theorem splitAt_append {a b sep : String} {c : Char} {rest : List Char}
    (hsep : sep.toList = c :: rest) (h : c ∉ a.toList) :
    splitAt (a ++ sep ++ b) sep = some (a, b) := by
  rw [splitAt, map_both_eq_some_iff, String.toList_append, String.toList_append, hsep,
    List.append_assoc, cutAt_append h]

/-! ### All pieces -/

theorem segments_eq_splitOn (c : Char) (s : List Char) : segments c s = s.splitOn c := by
  induction s with
  | nil => simp
  | cons d rest ih =>
      rw [List.splitOn_cons_eq_if_modifyHead, segments, ih]
      by_cases h : d = c
      · simp [h]
      · cases hrest : rest.splitOn c with
        | nil => exact absurd hrest (List.splitOn_ne_nil c rest)
        | cons piece pieces => simp [h]

/-- What the pieces of a text are made of, besides separators. -/
theorem mem_iff_exists_mem_segments {c d : Char} (h : d ≠ c) {s : List Char} :
    d ∈ s ↔ ∃ piece ∈ segments c s, d ∈ piece := by
  induction s with
  | nil => simp
  | cons e rest ih =>
      rw [List.mem_cons, ih, segments]
      by_cases he : e = c
      · simp [he, h]
      · rw [if_neg he]
        cases hrest : segments c rest with
        | nil => exact absurd hrest (segments_ne_nil c rest)
        | cons piece pieces => simp [or_assoc]

theorem notMem_of_mem_segments {c : Char} {s piece : List Char} (h : piece ∈ segments c s) :
    c ∉ piece := by
  induction s generalizing piece with
  | nil =>
      rw [segments_nil, List.mem_singleton] at h
      simp [h]
  | cons d rest ih =>
      rw [segments] at h
      by_cases hd : d = c
      · rw [if_pos hd, List.mem_cons] at h
        rcases h with rfl | h
        · simp
        · exact ih h
      · rw [if_neg hd] at h
        cases hrest : segments c rest with
        | nil => exact absurd hrest (segments_ne_nil c rest)
        | cons first pieces =>
            rw [hrest] at h ih
            rcases List.mem_cons.mp h with rfl | h
            · simp [Ne.symm hd, ih List.mem_cons_self]
            · exact ih (List.mem_cons_of_mem _ h)

theorem map_toList_pieces (s : String) (c : Char) :
    (pieces s c).map String.toList = segments c s.toList := by
  simp [pieces, Function.comp_def, String.toList_ofList]

/-- **Joining the pieces** of a text gives the text. -/
theorem intercalate_pieces (s : String) (c : Char) :
    (String.singleton c).intercalate (pieces s c) = s := by
  rw [← String.toList_inj, String.toList_intercalate, map_toList_pieces, String.toList_singleton,
    segments_eq_splitOn, List.intercalate_splitOn]

/-- **Cutting what was joined** gives the parts back, if they have no separator. -/
theorem pieces_intercalate {c : Char} {parts : List String} (hne : parts ≠ [])
    (h : ∀ part ∈ parts, c ∉ part.toList) :
    pieces ((String.singleton c).intercalate parts) c = parts := by
  have hlists : segments c ((String.singleton c).intercalate parts).toList =
      parts.map String.toList := by
    rw [segments_eq_splitOn, String.toList_intercalate, String.toList_singleton]
    refine List.splitOn_intercalate c ?_ (by simpa using hne)
    intro l hl
    obtain ⟨part, hpart, rfl⟩ := List.mem_map.mp hl
    exact h part hpart
  rw [pieces, hlists]
  simp [Function.comp_def, String.ofList_toList]

theorem notMem_of_mem_pieces {s piece : String} {c : Char} (h : piece ∈ pieces s c) :
    c ∉ piece.toList := by
  have hmem : piece.toList ∈ segments c s.toList := by
    rw [← map_toList_pieces]
    exact List.mem_map_of_mem h
  exact notMem_of_mem_segments hmem

/-- What the pieces of a text are made of, besides separators. -/
theorem mem_iff_exists_mem_pieces {s : String} {c d : Char} (h : d ≠ c) :
    d ∈ s.toList ↔ ∃ piece ∈ pieces s c, d ∈ piece.toList := by
  rw [mem_iff_exists_mem_segments h, ← map_toList_pieces]
  constructor
  · rintro ⟨_, hpiece, hd⟩
    obtain ⟨piece, hmem, rfl⟩ := List.mem_map.mp hpiece
    exact ⟨piece, hmem, hd⟩
  · rintro ⟨piece, hmem, hd⟩
    exact ⟨_, List.mem_map_of_mem hmem, hd⟩

/-- The text after the last separator is the last piece. -/
theorem pieces_around {a b : String} {c : Char} (h : c ∉ b.toList) :
    pieces (a ++ String.singleton c ++ b) c = pieces a c ++ [b] := by
  rw [pieces, toList_around, segments_eq_splitOn, List.splitOn_append_cons_self,
    List.splitOn_eq_singleton h, pieces, segments_eq_splitOn]
  simp

theorem pieces_of_notMem {s : String} {c : Char} (h : c ∉ s.toList) : pieces s c = [s] := by
  rw [pieces, segments_eq_splitOn, List.splitOn_eq_singleton h]
  simp

end DockerClient.Text
