/-
**Cutting text at a separator.**

Host names, image references and search paths are all read by cutting a text at the first or the
last occurrence of a separator.  The functions on lists of characters carry the theory, the ones
on strings are their views.

* `Text.cutFirst`, `Text.cutLast` — the text before and after the first (last) separator;
* `Text.cutFirst_eq_some_iff`, `Text.cutLast_eq_some_iff` — **a cut is a decomposition**: the parts
  around the separator, the separator missing from the part that was searched;
* `Text.segments` — every piece between separators;
* `Text.cutAt` — cutting at the first occurrence of a longer separator.
-/

set_option relaxedAutoImplicit false
set_option autoImplicit false

namespace DockerClient.Text

/-! ### One character -/

/-- The characters before the first `c` and those after it. -/
def cutFirst (c : Char) : List Char → Option (List Char × List Char)
  | [] => none
  | d :: rest =>
      if d = c then some ([], rest)
      else (cutFirst c rest).map fun parts => (d :: parts.1, parts.2)

/-- The characters before the last `c` and those after it. -/
def cutLast (c : Char) : List Char → Option (List Char × List Char)
  | [] => none
  | d :: rest =>
      match cutLast c rest with
      | some parts => some (d :: parts.1, parts.2)
      | none => if d = c then some ([], rest) else none

/-- The pieces between the occurrences of `c`; a text without `c` is one piece. -/
def segments (c : Char) : List Char → List (List Char)
  | [] => [[]]
  | d :: rest =>
      if d = c then [] :: segments c rest
      else
        match segments c rest with
        | [] => [[d]]
        | piece :: pieces => (d :: piece) :: pieces

@[simp] theorem cutFirst_nil (c : Char) : cutFirst c [] = none := rfl

@[simp] theorem cutLast_nil (c : Char) : cutLast c [] = none := rfl

@[simp] theorem segments_nil (c : Char) : segments c [] = [[]] := rfl

/-- There is no first `c` exactly when there is no `c`. -/
theorem cutFirst_eq_none_iff {c : Char} {s : List Char} : cutFirst c s = none ↔ c ∉ s := by
  induction s with
  | nil => simp
  | cons d rest ih =>
      by_cases h : d = c
      · simp [cutFirst, h]
      · simp [cutFirst, h, ih, Ne.symm h]

/-- **Cutting at the first `c`** names the only decomposition whose first part has no `c`. -/
theorem cutFirst_eq_some_iff {c : Char} {s a b : List Char} :
    cutFirst c s = some (a, b) ↔ s = a ++ c :: b ∧ c ∉ a := by
  induction s generalizing a with
  | nil => simp
  | cons d rest ih =>
      by_cases h : d = c
      · subst h
        cases a with
        | nil => simp [cutFirst]
        | cons e a => simp only [cutFirst]; grind
      · simp only [cutFirst, if_neg h, Option.map_eq_some_iff, Prod.mk.injEq]
        constructor
        · rintro ⟨⟨x, y⟩, hxy, rfl, rfl⟩
          obtain ⟨rfl, hx⟩ := ih.mp hxy
          exact ⟨rfl, by simp [hx, Ne.symm h]⟩
        · rintro ⟨hs, ha⟩
          cases a with
          | nil => simp at hs; exact absurd hs.1 h
          | cons e a =>
              simp only [List.cons_append, List.cons.injEq] at hs
              obtain ⟨rfl, rfl⟩ := hs
              exact ⟨(a, b), ih.mpr ⟨rfl, by simp at ha; exact ha.2⟩, rfl, rfl⟩

/-- There is no last `c` exactly when there is no `c`. -/
theorem cutLast_eq_none_iff {c : Char} {s : List Char} : cutLast c s = none ↔ c ∉ s := by
  induction s with
  | nil => simp
  | cons d rest ih =>
      cases h : cutLast c rest with
      | none =>
          have := ih.mp h
          by_cases hd : d = c
          · simp [cutLast, h, hd]
          · simp [cutLast, h, hd, this, Ne.symm hd]
      | some parts =>
          have : c ∈ rest := by
            apply Classical.byContradiction
            intro hc
            simp [ih.mpr hc] at h
          simp [cutLast, h, this]

/-- **Cutting at the last `c`** names the only decomposition whose second part has no `c`. -/
theorem cutLast_eq_some_iff {c : Char} {s a b : List Char} :
    cutLast c s = some (a, b) ↔ s = a ++ c :: b ∧ c ∉ b := by
  induction s generalizing a b with
  | nil => simp
  | cons d rest ih =>
      cases h : cutLast c rest with
      | none =>
          have hc := cutLast_eq_none_iff.mp h
          by_cases hd : d = c
          · subst hd
            simp only [cutLast, h, if_true]
            cases a with
            | nil => simp; grind
            | cons e a => simp; grind
          · simp only [cutLast, h, if_neg hd]
            cases a with
            | nil => simp; grind
            | cons e a => simp; grind
      | some parts =>
          obtain ⟨x, y⟩ := parts
          obtain ⟨rfl, hy⟩ := ih.mp h
          simp only [cutLast, h, Option.some.injEq, Prod.mk.injEq]
          constructor
          · rintro ⟨rfl, rfl⟩
            exact ⟨rfl, hy⟩
          · rintro ⟨hs, hb⟩
            cases a with
            | nil =>
                simp only [List.nil_append, List.cons.injEq] at hs
                obtain ⟨rfl, rfl⟩ := hs
                simp at hb
            | cons e a =>
                simp only [List.cons_append, List.cons.injEq] at hs
                obtain ⟨rfl, hs⟩ := hs
                have := ih.mpr ⟨hs, hb⟩
                rw [h] at this
                simp only [Option.some.injEq, Prod.mk.injEq] at this
                exact ⟨by rw [this.1], this.2⟩

/-- A text has at least one piece. -/
theorem segments_ne_nil (c : Char) (s : List Char) : segments c s ≠ [] := by
  induction s with
  | nil => simp
  | cons d rest ih =>
      by_cases h : d = c
      · simp [segments, h]
      · simp only [segments, if_neg h]
        split <;> simp

/-! ### A longer separator -/

/-- The characters before the first occurrence of `sep` and those after it. -/
def cutAt (sep : List Char) : List Char → Option (List Char × List Char)
  | [] => if sep.isEmpty then some ([], []) else none
  | d :: rest =>
      match sep.isPrefixOf? (d :: rest) with
      | some after => some ([], after)
      | none => (cutAt sep rest).map fun parts => (d :: parts.1, parts.2)

/-! ### Strings -/

/-- Both halves of a cut as strings. -/
def both (parts : List Char × List Char) : String × String :=
  (String.ofList parts.1, String.ofList parts.2)

/-- The text before and after the first `c`. -/
def splitFirst (s : String) (c : Char) : Option (String × String) :=
  (cutFirst c s.toList).map both

/-- The text before and after the last `c`. -/
def splitLast (s : String) (c : Char) : Option (String × String) :=
  (cutLast c s.toList).map both

/-- The text before and after the first occurrence of `sep`. -/
def splitAt (s sep : String) : Option (String × String) :=
  (cutAt sep.toList s.toList).map both

/-- The pieces of a string between the occurrences of `c`. -/
def pieces (s : String) (c : Char) : List String :=
  (segments c s.toList).map String.ofList

/-- The text before the first `c`, all of it if there is none. -/
def upTo (s : String) (c : Char) : String :=
  match splitFirst s c with
  | some (before, _) => before
  | none => s

/-- What follows `lead`, if the text starts with it. -/
def after? (lead s : String) : Option String :=
  (lead.toList.isPrefixOf? s.toList).map String.ofList

/-- The text without any `c` at its end. -/
def trimEnd (s : String) (c : Char) : String :=
  String.ofList (s.toList.reverse.dropWhile (· = c)).reverse

/-- Whether `part` occurs in the text. -/
def contains (s part : String) : Bool :=
  (splitAt s part).isSome

end DockerClient.Text
