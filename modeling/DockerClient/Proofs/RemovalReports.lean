import DockerClient.Error.Removal
import DockerClient.Proofs.Cutting
import Mathlib.Data.List.TakeWhile

/-
**Which messages report that a removal is in progress.**

The daemon has no code of its own for a removal that is in progress, so the message is searched for
a sentence of a fixed shape.  The sentence may stand anywhere, and its opening may stand in the
message where nothing completes it.  What is read must not depend on how the search goes: the word
that names the kind can not be split in two ways, and of several reports the leftmost counts.

* `Removal.Begins`, `Removal.Begins.unique` — **a report at the beginning of a text**, which names
  one kind;
* `removalKind?_eq_some_iff` — the search finds the leftmost report;
* `Removal.Reports`, `Removal.reports_iff_begins` — **a report somewhere in a message**;
* `Removal.isRemovalInProgress_iff_reports` — **the predicate recognises exactly the reports**.
-/

set_option relaxedAutoImplicit false
set_option autoImplicit false

namespace DockerClient

/-! ### A report at the beginning of a text -/

/-- **A report at the beginning of a text** that names a kind: the opening, the kind as a word, a
space, anything on the same line, and the closing. -/
def Removal.Begins (word text : List Char) : Prop :=
  ∃ gap after, text = removalOpening ++ (word ++ ' ' :: (gap ++ (removalClosing ++ after))) ∧
    word ≠ [] ∧ (∀ c ∈ word, Text.isBlank c = false) ∧ '\n' ∉ gap

/-- A word in front of a space is what stands before the first white space. -/
theorem word_iff {rest word tail : List Char} :
    (rest.takeWhile (fun c => !Text.isBlank c) = word ∧
        rest.dropWhile (fun c => !Text.isBlank c) = ' ' :: tail) ↔
      rest = word ++ ' ' :: tail ∧ ∀ c ∈ word, Text.isBlank c = false := by
  constructor
  · rintro ⟨rfl, hdrop⟩
    refine ⟨by rw [← hdrop, List.takeWhile_append_dropWhile], fun c hc => ?_⟩
    simpa using List.mem_takeWhile_imp hc
  · rintro ⟨rfl, hword⟩
    have hpos : ∀ c ∈ word, (!Text.isBlank c) = true := fun c hc => by rw [hword c hc]; rfl
    constructor
    · rw [List.takeWhile_append_of_pos hpos, List.takeWhile_cons_of_neg (by decide),
        List.append_nil]
    · rw [List.dropWhile_append_of_pos hpos, List.dropWhile_cons_of_neg (by decide)]

/-- The closing is found on the first line exactly if no line feed stands in front of it. -/
theorem closing_iff {tail : List Char} :
    (Text.cutAt removalClosing (tail.takeWhile (· ≠ '\n'))).isSome = true ↔
      ∃ gap after, tail = gap ++ (removalClosing ++ after) ∧ '\n' ∉ gap := by
  rw [Text.isSome_cutAt_iff]
  constructor
  · rintro ⟨gap, after, hline⟩
    refine ⟨gap, after ++ tail.dropWhile (· ≠ '\n'), ?_, fun hfeed => ?_⟩
    · rw [← List.append_assoc, ← List.append_assoc, hline, List.takeWhile_append_dropWhile]
    · have hmem : '\n' ∈ tail.takeWhile (· ≠ '\n') := by
        rw [← hline]
        simp [hfeed]
      simpa using List.mem_takeWhile_imp hmem
  · rintro ⟨gap, after, rfl, hgap⟩
    -- the closing has no line feed either, so it stands on the line of the gap
    have hclosing : '\n' ∉ removalClosing := by decide
    have hsame {part : List Char} (h : '\n' ∉ part) : ∀ c ∈ part, decide (c ≠ '\n') = true :=
      fun c hc => decide_eq_true (ne_of_mem_of_not_mem hc h)
    rw [List.takeWhile_append_of_pos (hsame hgap), List.takeWhile_append_of_pos (hsame hclosing)]
    exact ⟨gap, _, List.append_assoc _ _ _⟩

/-- What is read at the beginning of a text is a report there. -/
theorem begins_of_removalHere? {text word : List Char} (h : removalHere? text = some word) :
    Removal.Begins word text := by
  unfold removalHere? at h
  split at h
  · cases h
  · rename_i rest hopening
    have htext := (List.isPrefixOf?_eq_some_iff_append_eq.mp hopening).symm
    dsimp only at h
    split at h
    · rename_i c cs tail hword htail
      split at h
      · rename_i hclosing
        rw [hword] at h
        cases h
        obtain ⟨hrest, hblank⟩ := word_iff.mp ⟨hword, htail⟩
        obtain ⟨gap, after, rfl, hgap⟩ := closing_iff.mp hclosing
        exact ⟨gap, after, by rw [htext, hrest], List.cons_ne_nil _ _, hblank, hgap⟩
      · cases h
    · cases h

/-- A report at the beginning of a text is read. -/
theorem removalHere?_of_begins {text word : List Char} (h : Removal.Begins word text) :
    removalHere? text = some word := by
  obtain ⟨gap, after, rfl, hne, hword, hgap⟩ := h
  have hopening (rest : List Char) : removalOpening.isPrefixOf? (removalOpening ++ rest) =
      some rest := List.isPrefixOf?_eq_some_iff_append_eq.mpr rfl
  obtain ⟨htake, hdrop⟩ :=
    (@word_iff _ word (gap ++ (removalClosing ++ after))).mpr ⟨rfl, hword⟩
  have hclosing := closing_iff.mpr ⟨gap, after, rfl, hgap⟩
  obtain ⟨c, cs, rfl⟩ := List.exists_cons_of_ne_nil hne
  simp only [removalHere?, hopening, htake, hdrop]
  rw [if_pos hclosing]

/-- A report names one kind. -/
theorem Removal.Begins.unique {text word other : List Char} (h : Begins word text)
    (h' : Begins other text) : word = other :=
  Option.some.inj ((removalHere?_of_begins h).symm.trans (removalHere?_of_begins h'))

/-- Nothing is reported without a text. -/
theorem Removal.not_begins_nil (word : List Char) : ¬Begins word [] := by
  rintro ⟨gap, after, htext, -⟩
  exact absurd (List.append_eq_nil_iff.mp htext.symm).1 (by decide)

/-! ### The leftmost report -/

/-- **The search finds the leftmost report** of a text. -/
theorem removalKind?_eq_some_iff {text word : List Char} :
    removalKind? text = some word ↔
      ∃ before rest, text = before ++ rest ∧ Removal.Begins word rest ∧
        ∀ before' rest' other, text = before' ++ rest' → Removal.Begins other rest' →
          before.length ≤ before'.length := by
  induction text with
  | nil =>
      simp only [removalKind?, reduceCtorEq, false_iff]
      rintro ⟨before, rest, htext, hbegins, -⟩
      rw [(List.append_eq_nil_iff.mp htext.symm).2] at hbegins
      exact Removal.not_begins_nil word hbegins
  | cons c text ih =>
      rw [removalKind?]
      cases hhere : removalHere? (c :: text) with
      | some here =>
          have hbegins := begins_of_removalHere? hhere
          simp only [Option.some.injEq]
          constructor
          · rintro rfl
            exact ⟨[], c :: text, rfl, hbegins, fun _ _ _ _ _ => Nat.zero_le _⟩
          · rintro ⟨before, rest, htext, hword, hleft⟩
            obtain rfl : before = [] :=
              List.length_eq_zero_iff.mp (Nat.le_zero.mp (hleft [] _ _ rfl hbegins))
            rw [htext] at hbegins
            exact hbegins.unique hword
      | none =>
          -- no report begins here, so each begins behind the first character
          have hbehind {before rest other : List Char} (htext : c :: text = before ++ rest)
              (hbegins : Removal.Begins other rest) :
              ∃ before', before = c :: before' ∧ text = before' ++ rest := by
            cases before with
            | nil =>
                rw [List.nil_append] at htext
                rw [htext, removalHere?_of_begins hbegins] at hhere
                cases hhere
            | cons d before =>
                rw [List.cons_append, List.cons.injEq] at htext
                exact ⟨before, by rw [htext.1], htext.2⟩
          dsimp only
          rw [ih]
          constructor
          · rintro ⟨before, rest, rfl, hword, hleft⟩
            refine ⟨c :: before, rest, rfl, hword, fun before' rest' other htext hbegins => ?_⟩
            obtain ⟨later, rfl, hlater⟩ := hbehind htext hbegins
            exact Nat.succ_le_succ (hleft later rest' other hlater hbegins)
          · rintro ⟨before, rest, htext, hword, hleft⟩
            obtain ⟨first, rfl, hfirst⟩ := hbehind htext hword
            refine ⟨first, rest, hfirst, hword, fun before' rest' other htext' hbegins => ?_⟩
            exact Nat.le_of_succ_le_succ
              (hleft (c :: before') rest' other (by rw [htext', List.cons_append]) hbegins)

/-- The search finds something in a text with a report. -/
theorem exists_removalKind? {word rest : List Char} (before : List Char)
    (h : Removal.Begins word rest) : ∃ kind, removalKind? (before ++ rest) = some kind := by
  induction before with
  | nil =>
      cases rest with
      | nil => exact absurd h (Removal.not_begins_nil word)
      | cons c rest => exact ⟨word, by rw [List.nil_append, removalKind?, removalHere?_of_begins h]⟩
  | cons c before ih =>
      rw [List.cons_append, removalKind?]
      cases removalHere? (c :: (before ++ rest)) with
      | some here => exact ⟨here, rfl⟩
      | none => exact ih

/-! ### Reports in messages -/

namespace Removal

/-- **A report in a message**, with what stands before it and the kind that it names. -/
def Reports (message before kind : String) : Prop :=
  ∃ gap after : String,
    message = before ++ "removal of " ++ kind ++ " " ++ gap ++ " is already in progress" ++ after ∧
    kind ≠ "" ∧ (∀ c ∈ kind.toList, Text.isBlank c = false) ∧ '\n' ∉ gap.toList

/-- **The kind that a message reports**: that of its leftmost report. -/
def ReportsFirst (message kind : String) : Prop :=
  ∃ before, Reports message before kind ∧
    ∀ before' other, Reports message before' other → before.length ≤ before'.length

/-- The characters of a message with a report. -/
theorem toList_report (before kind gap after : String) :
    (before ++ "removal of " ++ kind ++ " " ++ gap ++ " is already in progress" ++ after).toList =
      before.toList ++ (removalOpening ++
        (kind.toList ++ ' ' :: (gap.toList ++ (removalClosing ++ after.toList)))) := by
  simp only [String.toList_append, List.append_assoc]
  rfl

/-- A report in a message begins a rest of it. -/
theorem reports_iff_begins {message before kind : String} :
    Reports message before kind ↔
      ∃ rest, message.toList = before.toList ++ rest ∧ Begins kind.toList rest := by
  have hempty : kind.toList ≠ [] ↔ kind ≠ "" := not_congr String.toList_eq_nil_iff
  constructor
  · rintro ⟨gap, after, rfl, hne, hkind, hgap⟩
    exact ⟨_, toList_report before kind gap after, _, _, rfl, hempty.mpr hne, hkind, hgap⟩
  · rintro ⟨_, hmessage, gap, after, rfl, hne, hkind, hgap⟩
    refine ⟨.ofList gap, .ofList after, ?_, hempty.mp hne, hkind, by rwa [String.toList_ofList]⟩
    rw [← String.toList_inj, hmessage, toList_report, String.toList_ofList, String.toList_ofList]

/-- The search finds the kind that a message reports. -/
theorem removalKind?_eq_some_iff_reportsFirst {message kind : String} :
    removalKind? message.toList = some kind.toList ↔ ReportsFirst message kind := by
  rw [removalKind?_eq_some_iff]
  constructor
  · rintro ⟨before, rest, hmessage, hbegins, hleft⟩
    refine ⟨.ofList before, reports_iff_begins.mpr ⟨rest, by rwa [String.toList_ofList], hbegins⟩,
      fun before' other hreports => ?_⟩
    obtain ⟨rest', hmessage', hbegins'⟩ := reports_iff_begins.mp hreports
    rw [String.length_ofList, ← String.length_toList]
    exact hleft before'.toList rest' other.toList hmessage' hbegins'
  · rintro ⟨before, hreports, hleft⟩
    obtain ⟨rest, hmessage, hbegins⟩ := reports_iff_begins.mp hreports
    refine ⟨before.toList, rest, hmessage, hbegins,
      fun before' rest' other hmessage' hbegins' => ?_⟩
    have hreports' : Reports message (.ofList before') (.ofList other) :=
      reports_iff_begins.mpr ⟨rest', by rwa [String.toList_ofList],
        by rwa [String.toList_ofList]⟩
    rw [String.length_toList, ← String.length_ofList (l := before')]
    exact hleft _ _ hreports'

theorem isRemovalInProgress_some_iff {message kind : String} :
    isRemovalInProgress (some kind) message = true ↔ ReportsFirst message kind := by
  rw [← removalKind?_eq_some_iff_reportsFirst, isRemovalInProgress]
  cases removalKind? message.toList <;> simp

theorem isRemovalInProgress_none_iff {message : String} :
    isRemovalInProgress none message = true ↔ ∃ kind, ReportsFirst message kind := by
  rw [isRemovalInProgress]
  cases hkind : removalKind? message.toList with
  | none =>
      simp only [Bool.false_eq_true, false_iff]
      rintro ⟨kind, hfirst⟩
      rw [removalKind?_eq_some_iff_reportsFirst.mpr hfirst] at hkind
      cases hkind
  | some word =>
      rw [← String.toList_ofList (l := word)] at hkind
      exact iff_of_true rfl ⟨_, removalKind?_eq_some_iff_reportsFirst.mp hkind⟩

/-- A message with a report has a leftmost one. -/
theorem exists_reportsFirst {message before kind : String} (h : Reports message before kind) :
    ∃ first, ReportsFirst message first := by
  obtain ⟨rest, hmessage, hbegins⟩ := reports_iff_begins.mp h
  obtain ⟨word, hword⟩ := exists_removalKind? before.toList hbegins
  rw [← hmessage, ← String.toList_ofList (l := word)] at hword
  exact ⟨_, removalKind?_eq_some_iff_reportsFirst.mp hword⟩

/-- A message reports one kind. -/
theorem ReportsFirst.unique {message kind other : String} (h : ReportsFirst message kind)
    (h' : ReportsFirst message other) : kind = other := by
  have hkind := removalKind?_eq_some_iff_reportsFirst.mpr h
  rw [removalKind?_eq_some_iff_reportsFirst.mpr h'] at hkind
  exact String.toList_inj.mp (Option.some.inj hkind).symm

/-- **The predicate recognises exactly the reports.**  Without a kind it says whether a message has
one, and with a kind, whether the leftmost one names it; so every message with a report is one about
exactly one kind. -/
theorem isRemovalInProgress_iff_reports (message : String) :
    (isRemovalInProgress none message = true ↔ ∃ before kind, Reports message before kind) ∧
    (∀ kind, isRemovalInProgress (some kind) message = true ↔ ReportsFirst message kind) ∧
    (∀ kind, isRemovalInProgress (some kind) message = true →
      isRemovalInProgress none message = true) ∧
    (isRemovalInProgress none message = true →
      ∃! kind, isRemovalInProgress (some kind) message = true) := by
  refine ⟨isRemovalInProgress_none_iff.trans ⟨?_, ?_⟩, fun _ => isRemovalInProgress_some_iff,
    fun kind hkind => ?_, fun hreport => ?_⟩
  · rintro ⟨kind, before, hreports, -⟩
    exact ⟨before, kind, hreports⟩
  · rintro ⟨before, kind, hreports⟩
    exact exists_reportsFirst hreports
  · exact isRemovalInProgress_none_iff.mpr ⟨kind, isRemovalInProgress_some_iff.mp hkind⟩
  · obtain ⟨kind, hfirst⟩ := isRemovalInProgress_none_iff.mp hreport
    refine ⟨kind, isRemovalInProgress_some_iff.mpr hfirst, fun other hother => ?_⟩
    exact (isRemovalInProgress_some_iff.mp hother).unique hfirst

/-- A message whose first opening is not completed, and that has two reports after it. -/
def twoReports : String :=
  "removal of  a, removal of volume v is already in progress, " ++
    "removal of network n is already in progress"

/-- The message is about the volume. -/
theorem isRemovalInProgress_iff_reports_twice :
    isRemovalInProgress none twoReports = true ∧ ReportsFirst twoReports "volume" ∧
      (∃! kind, isRemovalInProgress (some kind) twoReports = true) ∧
      isRemovalInProgress (some "network") twoReports = false := by
  have hreport : isRemovalInProgress none twoReports = true := by decide
  obtain ⟨-, hkinds, -, hunique⟩ := isRemovalInProgress_iff_reports twoReports
  exact ⟨hreport, (hkinds "volume").mp (by decide), hunique hreport, by decide⟩

end Removal

end DockerClient
