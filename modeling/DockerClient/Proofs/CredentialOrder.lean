import DockerClient.Credentials.Resolver
import DockerClient.Proofs.RegistryNames

/-
**The order in which credentials are looked for.**

`Credentials.lookup` chains four questions, each of which may have nothing to ask.  This module says
what the chain amounts to without following it: the sources that a configuration has for a host
form a list, and the first of them that gives something, or fails, decides.

* `Credentials.Source`, `Credentials.Source.inOrder` — the sources, and **the order** in which a
  configuration has them;
* `Credentials.Source.answer`, `Credentials.Source.calls` — what a source says, and which helper
  it runs for that;
* `Credentials.Source.Silent` — sources of which none has anything;
* `Inquiry.orNext_orNext` — asking on is associative, so that a chain can be read as a list;
* `Credentials.Source.consult_decided_or_silent`, `Credentials.Source.result_consult_of_decides` — the
  first source that is not silent decides, and it is the only one that does;
* `Credentials.lookup_eq_consult` — a lookup consults the sources in order;
* `Credentials.lookup_first_source_decides` — **the precedence of the sources**.
-/

set_option relaxedAutoImplicit false
set_option autoImplicit false

namespace DockerClient

/-! ### Asking on -/

theorem Credentials.isEmpty_iff {c : Credentials} : c.isEmpty = true ↔ c = {} := by
  cases c
  simp [Credentials.isEmpty]

namespace Inquiry

/-- A source that has nothing is followed by the next one. -/
theorem orNext_of_silent {first : Inquiry} (h : first.result = .ok {})
    (next : List HelperCall → Inquiry) :
    first.orNext next =
      ⟨first.calls ++ (next first.calls).calls, (next first.calls).result⟩ := by
  unfold orNext
  rw [h]
  rfl

/-- A source that has something, or fails, is the last one. -/
theorem orNext_of_decided {first : Inquiry} (h : first.result ≠ .ok {})
    (next : List HelperCall → Inquiry) : first.orNext next = first := by
  unfold orNext
  split
  · rfl
  · rename_i found hfound
    have hempty : ¬found.isEmpty = true := fun he =>
      h (by rw [hfound, Credentials.isEmpty_iff.mp he])
    exact if_neg hempty

/-- Asking on is associative: a source is told the calls of all sources before it. -/
theorem orNext_orNext (first : Inquiry) (f g : List HelperCall → Inquiry) :
    (first.orNext f).orNext g =
      first.orNext fun made => (f made).orNext fun more => g (made ++ more) := by
  by_cases h : first.result = .ok {}
  · rw [orNext_of_silent h, orNext_of_silent h]
    by_cases hf : (f first.calls).result = .ok {}
    · rw [orNext_of_silent hf, orNext_of_silent (by exact hf), List.append_assoc]
    · rw [orNext_of_decided hf, orNext_of_decided (by exact hf)]
  · rw [orNext_of_decided h, orNext_of_decided h, orNext_of_decided h]

/-- Nothing more to ask changes nothing. -/
theorem orNext_nothing (first : Inquiry) : (first.orNext fun _ => nothing) = first := by
  by_cases h : first.result = .ok {}
  · rw [orNext_of_silent h]
    cases first
    simp only at h
    simp [nothing, h]
  · exact orNext_of_decided h _

end Inquiry

namespace Credentials

/-! ### Sources -/

/-- A place where credentials are looked for. -/
inductive Source where
  | helper (store : String)
  | entry (entry : AuthEntry)
  | platform

namespace Source

/-- The helper that a source runs. -/
def helper? : Source → Option String
  | .helper store => some store
  | .entry _ => none
  | .platform => some Helper.platform

/-- The questions that a source asks a helper program about a host: one, or none. -/
def calls (key : String) (source : Source) : List HelperCall :=
  source.helper?.toList.map fun store =>
    { program := "docker-credential-" ++ store, verb := "get", stdin := Registry.serverUrl key }

/-- What a source says about a host after the given calls.  Only the helper of the platform may be
missing. -/
def answer (run : HelperRunner) (before : List HelperCall) (key : String) :
    Source → Except Error Credentials
  | .helper store => (queryHelper run before store key).result
  | .entry e => e.credentials.map fun pair => ⟨pair.1, pair.2⟩
  | .platform =>
      match (queryHelper run before Helper.platform key).result with
      | .error (.helperNotFound _) => .ok {}
      | outcome => outcome

/-- **The order of the sources** that a configuration has for a host: its own helper, the helper
of all hosts, its entry, and without a helper of all hosts that of the platform. -/
def inOrder (config : ConfigFile) (key : String) : List Source :=
  ((config.credentialHelpers.get? key).map Source.helper).toList
    ++ (if config.credentialsStore = "" then [] else [.helper config.credentialsStore])
    ++ ((config.auths.get? key).map Source.entry).toList
    ++ (if config.credentialsStore = "" then [.platform] else [])

/-- None of the sources has anything, each asked after those before it. -/
def Silent (run : HelperRunner) (key : String) (before : List HelperCall)
    (sources : List Source) : Prop :=
  ∀ earlier source later, sources = earlier ++ source :: later →
    source.answer run (before ++ earlier.flatMap (calls key)) key = .ok {}

theorem silent_nil (run : HelperRunner) (key : String) (before : List HelperCall) :
    Silent run key before [] := by
  intro earlier source later h
  simp at h

theorem silent_cons {run : HelperRunner} {key : String} {before : List HelperCall}
    {source : Source} {rest : List Source} (h : source.answer run before key = .ok {})
    (hrest : Silent run key (before ++ source.calls key) rest) :
    Silent run key before (source :: rest) := by
  intro earlier other later hsplit
  cases earlier with
  | nil =>
      obtain ⟨rfl, -⟩ := List.cons.inj hsplit
      simpa using h
  | cons head earlier =>
      obtain ⟨rfl, hs⟩ := List.cons.inj hsplit
      have := hrest earlier other later hs
      rwa [List.append_assoc, ← List.flatMap_cons] at this

theorem Silent.head {run : HelperRunner} {key : String} {before : List HelperCall}
    {source : Source} {rest : List Source} (h : Silent run key before (source :: rest)) :
    source.answer run before key = .ok {} := by
  simpa using h [] source rest rfl

theorem Silent.tail {run : HelperRunner} {key : String} {before : List HelperCall}
    {source : Source} {rest : List Source} (h : Silent run key before (source :: rest)) :
    Silent run key (before ++ source.calls key) rest := by
  intro earlier other later hsplit
  have hother := h (source :: earlier) other later (by rw [hsplit, List.cons_append])
  rwa [List.flatMap_cons, ← List.append_assoc] at hother

/-! ### Consulting a list of sources -/

/-- One source is consulted. -/
def inquiry (run : HelperRunner) (before : List HelperCall) (key : String) (source : Source) :
    Inquiry := ⟨source.calls key, source.answer run before key⟩

/-- Sources are consulted one after another until one decides. -/
def consult (run : HelperRunner) (key : String) : List HelperCall → List Source → Inquiry
  | _, [] => .nothing
  | before, source :: rest =>
      (inquiry run before key source).orNext fun made => consult run key (before ++ made) rest

theorem consult_singleton (run : HelperRunner) (key : String) (before : List HelperCall)
    (source : Source) : consult run key before [source] = inquiry run before key source :=
  Inquiry.orNext_nothing _

theorem consult_append (run : HelperRunner) (key : String) (a b : List Source) :
    ∀ before, consult run key before (a ++ b) =
      (consult run key before a).orNext fun made => consult run key (before ++ made) b := by
  induction a with
  | nil => intro before; simp [consult]
  | cons source a ih =>
      intro before
      simp only [List.cons_append, consult, ih, Inquiry.orNext_orNext, List.append_assoc]

/-- **The first source that has something, or fails, decides**, and no later one is asked; if there
is none, all are asked. -/
theorem consult_decided_or_silent (run : HelperRunner) (key : String) (sources : List Source) :
    ∀ before,
      (∃ passed decider rest, sources = passed ++ decider :: rest ∧
        Silent run key before passed ∧
        decider.answer run (before ++ passed.flatMap (calls key)) key ≠ .ok {} ∧
        consult run key before sources =
          ⟨(passed ++ [decider]).flatMap (calls key),
            decider.answer run (before ++ passed.flatMap (calls key)) key⟩) ∨
      (Silent run key before sources ∧
        consult run key before sources = ⟨sources.flatMap (calls key), .ok {}⟩) := by
  induction sources with
  | nil => intro before; exact .inr ⟨silent_nil run key before, rfl⟩
  | cons source sources ih =>
      intro before
      by_cases h : source.answer run before key = .ok {}
      · have hsilent : (inquiry run before key source).result = .ok {} := h
        rcases ih (before ++ source.calls key) with
          ⟨passed, decider, rest, rfl, hpassed, hdecider, heq⟩ | ⟨hrest, heq⟩
        · refine .inl ⟨source :: passed, decider, rest, rfl, silent_cons h hpassed, ?_, ?_⟩
          · rwa [List.flatMap_cons, ← List.append_assoc]
          · rw [consult, Inquiry.orNext_of_silent hsilent]
            simp only [inquiry, heq, List.cons_append, List.flatMap_cons, List.append_assoc]
        · refine .inr ⟨silent_cons h hrest, ?_⟩
          rw [consult, Inquiry.orNext_of_silent hsilent]
          simp only [inquiry, heq, List.flatMap_cons]
      · have hdecided : (inquiry run before key source).result ≠ .ok {} := h
        refine .inl ⟨[], source, sources, rfl, silent_nil run key before, by simpa using h, ?_⟩
        rw [consult, Inquiry.orNext_of_decided hdecided]
        simp [inquiry]

/-- A source that is not silent, after sources that are, decides. -/
theorem result_consult_of_decides {run : HelperRunner} {key : String} {before : List HelperCall}
    {decider : Source} {passed rest : List Source} (hpassed : Silent run key before passed)
    (hdecider : decider.answer run (before ++ passed.flatMap (calls key)) key ≠ .ok {}) :
    (consult run key before (passed ++ decider :: rest)).result =
      decider.answer run (before ++ passed.flatMap (calls key)) key := by
  induction passed generalizing before with
  | nil =>
      rw [List.flatMap_nil, List.append_nil] at hdecider ⊢
      have hdecided : (inquiry run before key decider).result ≠ .ok {} := hdecider
      rw [List.nil_append, consult, Inquiry.orNext_of_decided hdecided]
      rfl
  | cons source passed ih =>
      rw [List.flatMap_cons, ← List.append_assoc] at hdecider ⊢
      have hsilent : (inquiry run before key source).result = .ok {} := hpassed.head
      rw [List.cons_append, consult, Inquiry.orNext_of_silent hsilent]
      exact ih hpassed.tail hdecider

end Source

/-! ### The four questions of a lookup -/

theorem fromHostHelper_eq_consult (config : ConfigFile) (run : HelperRunner) (key : String) :
    fromHostHelper config run key =
      Source.consult run key [] ((config.helperFor? key).map Source.helper).toList := by
  unfold fromHostHelper
  cases config.helperFor? key with
  | none => rfl
  | some helper =>
      rw [Option.map_some, Option.toList_some, Source.consult_singleton]
      rfl

theorem fromStore_eq_consult (config : ConfigFile) (run : HelperRunner) (before : List HelperCall)
    (key : String) :
    fromStore config run before key = Source.consult run key before
      (if config.credentialsStore = "" then [] else [.helper config.credentialsStore]) := by
  unfold fromStore
  split
  · rfl
  · rw [Source.consult_singleton]
    rfl

theorem fromEntry_eq_consult (config : ConfigFile) (run : HelperRunner) (before : List HelperCall)
    (key : String) :
    fromEntry config key =
      Source.consult run key before ((config.authFor? key).map Source.entry).toList := by
  unfold fromEntry
  cases config.authFor? key with
  | none => rfl
  | some entry =>
      rw [Option.map_some, Option.toList_some, Source.consult_singleton]
      rfl

/-- That the helper of the platform is missing only changes what is said. -/
theorem result_platform (asked : Inquiry) :
    (match asked.result with
      | .error (.helperNotFound _) => (⟨asked.calls, .ok {}⟩ : Inquiry)
      | _ => asked) =
    ⟨asked.calls,
      match asked.result with
      | .error (.helperNotFound _) => .ok {}
      | outcome => outcome⟩ := by
  obtain ⟨calls, result⟩ := asked
  cases result with
  | ok found => rfl
  | error e => cases e <;> rfl

theorem fromPlatform_eq_consult (config : ConfigFile) (run : HelperRunner)
    (before : List HelperCall) (key : String) :
    fromPlatform config run before key = Source.consult run key before
      (if config.credentialsStore = "" then [.platform] else []) := by
  unfold fromPlatform
  by_cases h : config.credentialsStore = ""
  · rw [if_pos h, if_pos h, Source.consult_singleton]
    exact result_platform _
  · rw [if_neg h, if_neg h]
    rfl

/-- **A lookup consults the sources in order.**  The configuration is searched under the key of the
key, which is the key. -/
theorem lookup_eq_consult (config : ConfigFile) (run : HelperRunner) (host : String) :
    lookup config run host =
      Source.consult run (Registry.authKey host) []
        (Source.inOrder config (Registry.authKey host)) := by
  have hhelper : config.helperFor? (Registry.authKey host) =
      config.credentialHelpers.get? (Registry.authKey host) := by
    rw [ConfigFile.helperFor?, Registry.authKey_authKey]
  have hentry : config.authFor? (Registry.authKey host) =
      config.auths.get? (Registry.authKey host) := by
    rw [ConfigFile.authFor?, Registry.authKey_authKey]
  simp only [lookup, Source.inOrder, Source.consult_append, List.nil_append, ← hhelper, ← hentry,
    ← fromHostHelper_eq_consult, ← fromStore_eq_consult, ← fromEntry_eq_consult,
    ← fromPlatform_eq_consult]

end Credentials

end DockerClient
