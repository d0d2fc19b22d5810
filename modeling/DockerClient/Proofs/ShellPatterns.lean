import DockerClient.Program.Pattern

/-
**Which texts have the form of a pattern.**

`Pattern.admits` takes a pattern apart from its beginning, within a bound on its length, and tries
every end of a text for a star.  The rules of patterns are stated here without a bound and without a
search, and the search is shown to follow them.

* `Pattern.length_of_setHolds` — what follows a set is shorter than the set;
* `Pattern.Matches` — **the form of a pattern**, one rule for each beginning;
* `Pattern.admits_iff_matches` — **a text is admitted exactly if it has the form**;
* `Pattern.admits_star_iff` — a star stands for any text;
* `Pattern.admits_quote_append_iff`, `Pattern.admits_plain_iff` — what is quoted stands for itself, in
  front of any pattern, and so does a text without signs of its own.
-/

set_option relaxedAutoImplicit false
set_option autoImplicit false

namespace DockerClient.Pattern

variable {pattern rest s t : Bytes} {c : Char}

/-! ### What follows the beginning of a pattern -/

theorem length_of_classAt? {p : Char → Bool} (h : classAt? s = some (p, rest)) :
    rest.length ≤ s.length := by
  unfold classAt? at h
  split at h
  · rename_i after
    dsimp only at h
    split at h
    · rename_i found hdrop
      have hlength := congrArg List.length hdrop
      simp only [List.length_drop, List.length_cons] at hlength
      simp only [Option.map_eq_some_iff, Prod.mk.injEq] at h
      obtain ⟨-, -, -, rfl⟩ := h
      simp only [List.length_cons]
      omega
    · cases h
  · cases h

/-- What follows a set is shorter than the set. -/
theorem length_of_setHolds {fuel : Nat} {first found holds : Bool}
    (h : setHolds c fuel first found s = some (holds, rest)) : rest.length < s.length := by
  induction fuel generalizing first found s with
  | zero => cases h
  | succ fuel ih =>
      cases s with
      | nil => cases h
      | cons d s =>
          unfold setHolds at h
          split at h
          · cases h
            simp
          · split at h
            · rename_i p after hclass
              have hafter : after.length ≤ s.length := by
                split at hclass
                · exact length_of_classAt? hclass
                · cases hclass
              have hrest := ih h
              simp only [List.length_cons]
              omega
            · split at h
              · cases h
              · rename_i low tail hlow
                have htail : tail.length ≤ s.length := by
                  have hlength := congrArg List.length hlow
                  split at hlength <;> simp only [List.length_cons] at hlength <;> omega
                -- one member, or the ends of a range
                split at h <;> have hrest := ih h <;> simp only [List.length_cons] at * <;> omega

/-- What is left of a pattern behind its beginning. -/
def Head.left : Head → Bytes
  | .done => []
  | .char _ rest | .any rest | .many rest => rest
  | .set _ members => members

/-- What is left is shorter than the pattern. -/
theorem length_left_headOf (h : pattern ≠ []) :
    (headOf pattern).left.length < pattern.length := by
  unfold headOf
  split
  · exact absurd rfl h
  · simp only [Head.left, List.length_cons]
    omega
  · simp [Head.left]
  · rename_i rest
    have hstars : (rest.dropWhile (· = '*')).length ≤ rest.length :=
      (List.dropWhile_sublist _).length_le
    simp only [Head.left, List.length_cons]
    omega
  · simp only [Head.left, List.length_cons]
    omega
  · simp [Head.left]
  · simp [Head.left]

theorem headOf_eq_done_iff : headOf pattern = .done ↔ pattern = [] := by
  constructor
  · intro h
    unfold headOf at h
    split at h
    · rfl
    all_goals cases h
  · rintro rfl
    rfl

/-! ### The form of a pattern -/

/-- **The form of a pattern**, by its beginning: a character, any character, any text, one of a set,
or one not of it.  A set that is not closed is a bracket. -/
inductive Matches : Bytes → Bytes → Prop
  | done : Matches [] []
  | char {pattern rest s : Bytes} {c : Char} (hhead : headOf pattern = .char c rest)
      (hrest : Matches rest s) : Matches pattern (c :: s)
  | any {pattern rest s : Bytes} {c : Char} (hhead : headOf pattern = .any rest)
      (hrest : Matches rest s) : Matches pattern (c :: s)
  | many {pattern rest s : Bytes} (skipped : Bytes) (hhead : headOf pattern = .many rest)
      (hrest : Matches rest s) : Matches pattern (skipped ++ s)
  | set {pattern members rest s : Bytes} {c : Char} {negated found : Bool}
      (hhead : headOf pattern = .set negated members)
      (hset : setHolds c (members.length + 1) true false members = some (found, rest))
      (hfound : found ≠ negated) (hrest : Matches rest s) : Matches pattern (c :: s)
  | bracket {pattern members s : Bytes} {negated : Bool}
      (hhead : headOf pattern = .set negated members)
      (hset : setHolds '[' (members.length + 1) true false members = none)
      (hrest : Matches (pattern.drop 1) s) : Matches pattern ('[' :: s)

/-- What the form of a pattern says about a text, by its beginning. -/
theorem matches_iff : Matches pattern s ↔
    match headOf pattern with
    | .done => s = []
    | .char d rest => ∃ t, s = d :: t ∧ Matches rest t
    | .any rest => ∃ c t, s = c :: t ∧ Matches rest t
    | .many rest => ∃ skipped t, s = skipped ++ t ∧ Matches rest t
    | .set negated members => ∃ c t, s = c :: t ∧
        match setHolds c (members.length + 1) true false members with
        | some (found, rest) => found ≠ negated ∧ Matches rest t
        | none => c = '[' ∧ Matches (pattern.drop 1) t := by
  constructor
  · intro h
    cases h with
    | done => rfl
    | char hhead hrest =>
        rw [hhead]
        exact ⟨_, rfl, hrest⟩
    | any hhead hrest =>
        rw [hhead]
        exact ⟨_, _, rfl, hrest⟩
    | many skipped hhead hrest =>
        rw [hhead]
        exact ⟨skipped, _, rfl, hrest⟩
    | set hhead hset hfound hrest =>
        rw [hhead]
        refine ⟨_, _, rfl, ?_⟩
        rw [hset]
        exact ⟨hfound, hrest⟩
    | bracket hhead hset hrest =>
        rw [hhead]
        refine ⟨_, _, rfl, ?_⟩
        rw [hset]
        exact ⟨rfl, hrest⟩
  · intro h
    cases hhead : headOf pattern with
    | done =>
        rw [hhead] at h
        obtain rfl := headOf_eq_done_iff.mp hhead
        obtain rfl := h
        exact .done
    | char d rest =>
        rw [hhead] at h
        obtain ⟨t, rfl, hrest⟩ := h
        exact .char hhead hrest
    | any rest =>
        rw [hhead] at h
        obtain ⟨c, t, rfl, hrest⟩ := h
        exact .any hhead hrest
    | many rest =>
        rw [hhead] at h
        obtain ⟨skipped, t, rfl, hrest⟩ := h
        exact .many skipped hhead hrest
    | set negated members =>
        rw [hhead] at h
        obtain ⟨c, t, rfl, h⟩ := h
        split at h
        · rename_i hset
          exact .set hhead hset h.1 h.2
        · rename_i hset
          obtain ⟨rfl, hrest⟩ := h
          exact .bracket hhead hset hrest

theorem anyEnd_iff {p : Bytes → Bool} :
    anyEnd p s = true ↔ ∃ skipped t, s = skipped ++ t ∧ p t = true := by
  induction s with
  | nil =>
      constructor
      · exact fun h => ⟨[], [], rfl, h⟩
      · rintro ⟨skipped, t, heq, h⟩
        obtain ⟨-, rfl⟩ := List.append_eq_nil_iff.mp heq.symm
        exact h
  | cons c s ih =>
      rw [anyEnd, Bool.or_eq_true, ih]
      constructor
      · rintro (h | ⟨skipped, t, rfl, h⟩)
        · exact ⟨[], c :: s, rfl, h⟩
        · exact ⟨c :: skipped, t, rfl, h⟩
      · rintro ⟨skipped, t, heq, h⟩
        cases skipped with
        | nil => exact .inl (by rwa [heq])
        | cons d skipped =>
            obtain ⟨-, rfl⟩ := List.cons.inj heq
            exact .inr ⟨skipped, t, rfl, h⟩

/-- The search follows the rules, as long as its bound is beyond the length of the pattern. -/
theorem admitsWithin_iff_matches {fuel : Nat} (h : pattern.length < fuel) :
    admitsWithin fuel pattern s = true ↔ Matches pattern s := by
  induction fuel generalizing pattern s with
  | zero => omega
  | succ fuel ih =>
      rw [matches_iff]
      unfold admitsWithin
      by_cases hne : pattern = []
      · subst hne
        cases s <;> simp [headOf]
      -- what is left behind the beginning is within the next bound
      have left (rest : Bytes) (hrest : rest.length ≤ (headOf pattern).left.length) (t : Bytes) :
          admitsWithin fuel rest t = true ↔ Matches rest t := by
        have hleft := length_left_headOf hne
        exact ih (by omega)
      cases hhead : headOf pattern with
      | done => exact absurd (headOf_eq_done_iff.mp hhead) hne
      | char d rest =>
          have hrest := left rest (by rw [hhead]; exact Nat.le_refl _)
          cases s with
          | nil => simp
          | cons c s => simp [hrest, and_assoc]
      | any rest =>
          have hrest := left rest (by rw [hhead]; exact Nat.le_refl _)
          cases s with
          | nil => simp
          | cons c s => simp [hrest, and_assoc]
      | many rest =>
          have hrest := left rest (by rw [hhead]; exact Nat.le_refl _)
          simp only [Bool.or_eq_true, anyEnd_iff, hrest]
          constructor
          · rintro (hempty | h)
            · obtain rfl := List.isEmpty_iff.mp hempty
              exact ⟨s, [], (List.append_nil s).symm, .done⟩
            · exact h
          · exact .inr
      | set negated members =>
          have hmembers : members.length < pattern.length := by
            simpa only [hhead, Head.left] using length_left_headOf hne
          cases s with
          | nil => simp
          | cons c s =>
              dsimp only
              cases hset : setHolds c (members.length + 1) true false members with
              | none =>
                  have hbracket : admitsWithin fuel (pattern.drop 1) s = true ↔
                      Matches (pattern.drop 1) s := by
                    refine ih ?_
                    rw [List.length_drop]
                    omega
                  simp only [Bool.and_eq_true, beq_iff_eq, hbracket]
                  constructor
                  · exact fun h => ⟨c, s, rfl, by rwa [hset]⟩
                  · rintro ⟨d, t, heq, h⟩
                    cases heq
                    rwa [hset] at h
              | some held =>
                  have hrest := left held.2 (by
                    rw [hhead]
                    exact Nat.le_of_lt (length_of_setHolds hset))
                  simp only [Bool.and_eq_true, bne_iff_ne, hrest]
                  constructor
                  · exact fun h => ⟨c, s, rfl, by rwa [hset]⟩
                  · rintro ⟨d, t, heq, h⟩
                    cases heq
                    rwa [hset] at h

/-- **A text is admitted exactly if it has the form of the pattern.** -/
theorem admits_iff_matches : admits pattern s = true ↔ Matches pattern s :=
  admitsWithin_iff_matches (Nat.lt_succ_self _)

/-! ### Stars, quotes and plain texts -/

theorem matches_nil_iff : Matches [] s ↔ s = [] := matches_iff

theorem matches_star_iff {p : Bytes} : Matches ('*' :: p) s ↔
    ∃ skipped t, s = skipped ++ t ∧ Matches (p.dropWhile (· = '*')) t := matches_iff

/-- **A star stands for any text**, also in front of further stars. -/
theorem admits_star_iff {p : Bytes} : admits ('*' :: p) s = true ↔
    ∃ skipped t, s = skipped ++ t ∧ admits p t = true := by
  simp only [admits_iff_matches]
  rw [matches_star_iff]
  cases p with
  | nil => rfl
  | cons c p =>
      by_cases hc : c = '*'
      · subst hc
        simp only [matches_star_iff, List.dropWhile_cons_of_pos, decide_true]
        constructor
        · rintro ⟨skipped, t, rfl, h⟩
          exact ⟨skipped, t, rfl, [], t, rfl, h⟩
        · rintro ⟨skipped, -, rfl, more, t, rfl, h⟩
          exact ⟨skipped ++ more, t, (List.append_assoc _ _ _).symm, h⟩
      · rw [List.dropWhile_cons_of_neg (by simpa using hc)]

/-- **What is quoted stands for itself**, in front of any pattern. -/
theorem admits_quote_append_iff {word p : Bytes} : admits (quote word ++ p) s = true ↔
    ∃ t, s = word ++ t ∧ admits p t = true := by
  simp only [admits_iff_matches]
  induction word generalizing s with
  | nil => simp [quote]
  | cons c word ih =>
      have hhead : headOf (quote (c :: word) ++ p) = .char c (quote word ++ p) := rfl
      rw [matches_iff, hhead]
      simp only [ih]
      constructor
      · rintro ⟨-, rfl, t, rfl, h⟩
        exact ⟨t, rfl, h⟩
      · rintro ⟨t, rfl, h⟩
        exact ⟨word ++ t, rfl, t, rfl, h⟩

/-- A pattern that is quoted admits its own text alone. -/
theorem admits_quote_iff {word : Bytes} : admits (quote word) s = true ↔ s = word := by
  rw [← List.append_nil (quote word), admits_quote_append_iff]
  simp only [admits_iff_matches, matches_nil_iff]
  constructor
  · rintro ⟨-, rfl, rfl⟩
    exact List.append_nil word
  · rintro rfl
    exact ⟨[], (List.append_nil s).symm, rfl⟩

/-- **A text without signs of its own stands for itself**: it has neither a star, nor a question
mark, nor a bracket, nor a backslash. -/
theorem admits_plain_iff (hspecial : hasSpecial pattern = false) (hquoted : '\\' ∉ pattern) :
    admits pattern s = true ↔ s = pattern := by
  rw [admits_iff_matches]
  induction pattern generalizing s with
  | nil => exact matches_nil_iff
  | cons c p ih =>
      simp only [hasSpecial, List.any_cons, Bool.or_eq_false_iff, beq_eq_false_iff_ne] at hspecial
      obtain ⟨⟨⟨hstar, hany⟩, hset⟩, hrest⟩ := hspecial
      obtain ⟨hslash, hmore⟩ := not_or.mp (mt List.mem_cons.mpr hquoted)
      have hhead : headOf (c :: p) = .char c p := by
        unfold headOf
        split <;> simp_all
      rw [matches_iff, hhead]
      simp only [ih hrest hmore]
      constructor
      · rintro ⟨-, rfl, rfl⟩
        rfl
      · rintro rfl
        exact ⟨p, rfl, rfl⟩

end DockerClient.Pattern
