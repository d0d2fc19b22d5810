import DockerClient.Program.Launch
import DockerClient.Proofs.CredentialOrder
import DockerClient.Proofs.EncodedPairs
import DockerClient.Proofs.HelperAnswers

/-
**Credential helpers that are programs.**

A lookup of credentials is told how helpers are run; here they are programs, looked for by name in
the directories of a search path and run one after another on the same files.  This module says which
program is run for a call, what a sequence of calls leaves, and what a lookup is told of all that.

* `Program.candidates`, `Program.search_eq_some_iff` — the places where a program is looked for, and
  **that the first one with a program counts**;
* `Program.complete_eq_error`, `Program.env_complete` — a program that is found ends in some way or
  can not be started, and leaves the environment alone;
* `Program.runHelper_eq_helperNotFound_iff` — **a helper is missing exactly if the search finds
  nothing**;
* `Program.Leaves`, `Program.exists_leaves` — what a sequence of calls leaves, and how long each
  program took that was started for it;
* `Program.Leaves.candidates_eq`, `Program.helperRunner_append` — all helpers are looked for in the
  same places, and each finds the files as those before it left them;
* `Program.lookup_eq_helperNotFound_iff` — **a lookup misses only helpers that were configured**;
* `Program.lookupWithin_outcome` — **a lookup within a limit** is the lookup, or takes too long.
-/

set_option relaxedAutoImplicit false
set_option autoImplicit false

namespace DockerClient

/-! ### Errors of other sources -/

/-- No entry of a configuration says that a helper is missing. -/
theorem AuthEntry.credentials_ne_helperNotFound (entry : AuthEntry) (helper : String) :
    entry.credentials ≠ .error (.helperNotFound helper) := by
  intro h
  unfold credentials at h
  split at h
  · cases h
  · split at h
    · cases h
    · split at h
      · obtain ⟨fault, hfault⟩ := Auth.exists_fault_of_decode h
        cases hfault
      · cases h

/-- No output of a helper says that a helper is missing. -/
theorem Helper.interpret_ne_helperNotFound (helper : String) (out : HelperOutput) (other : String) :
    interpret helper out ≠ .error (.helperNotFound other) := by
  intro h
  have hmeans := means_interpret helper out
  rw [h] at hmeans
  cases hmeans

namespace Program

variable {m : Machine} {searchPath name path : String} {call : HelperCall}

/-! ### Finding a program -/

/-- The places where a program is looked for, in order: a name with a separator is its own place. -/
def candidates (m : Machine) (searchPath name : String) : List String :=
  if name.toList.contains '/' then [name]
  else (Text.pieces searchPath ':').map fun dir => Path.join (directoryOf m dir) name

theorem search_eq_find? (m : Machine) (searchPath name : String) :
    search m searchPath name = (candidates m searchPath name).find? (isRunnable m.tree) := by
  unfold search candidates
  split
  · rw [List.find?_singleton]
  · rfl

/-- **The first place with a program counts.** -/
theorem search_eq_some_iff :
    search m searchPath name = some path ↔
      ∃ earlier later, candidates m searchPath name = earlier ++ path :: later ∧
        isRunnable m.tree path = true ∧ ∀ p ∈ earlier, isRunnable m.tree p = false := by
  rw [search_eq_find?, List.find?_eq_some_iff_append]
  constructor
  · rintro ⟨hrun, earlier, later, hsplit, hearlier⟩
    exact ⟨earlier, later, hsplit, hrun, by simpa using hearlier⟩
  · rintro ⟨earlier, later, hsplit, hrun, hearlier⟩
    exact ⟨hrun, earlier, later, hsplit, by simpa using hearlier⟩

theorem search_eq_none_iff :
    search m searchPath name = none ↔
      ∀ p ∈ candidates m searchPath name, isRunnable m.tree p = false := by
  rw [search_eq_find?, List.find?_eq_none]
  simp

/-! ### Starting a program -/

/-- A program that is not run to its end can not be started. -/
theorem complete_eq_error {program : String} {args : List String} {input : List UInt8} {e : Error}
    (h : complete m program args input = .error e) : e = .spawn program := by
  unfold complete at h
  split at h
  · cases h
    rfl
  · split at h
    · cases h
    · cases h
      rfl

/-- **A program leaves the environment alone** of those that are started after it. -/
theorem env_complete {program : String} {args : List String} {input : List UInt8}
    {done : Completion} (h : complete m program args input = .ok done) :
    done.machine.env = m.env := by
  unfold complete at h
  split at h
  · cases h
  · split at h
    · cases h
      rfl
    · cases h

/-- **A helper is missing exactly if the search finds nothing.** -/
theorem runHelper_eq_helperNotFound_iff :
    runHelper m searchPath call = .error (.helperNotFound name) ↔
      call.program = name ∧ search m searchPath call.program = none := by
  unfold runHelper
  cases hsearch : search m searchPath call.program with
  | none => simp
  | some path =>
      simp only [reduceCtorEq, and_false, iff_false]
      intro h
      cases complete_eq_error h

theorem env_runHelper {done : Completion} (h : runHelper m searchPath call = .ok done) :
    done.machine.env = m.env := by
  unfold runHelper at h
  split at h
  · cases h
  · exact env_complete h

/-! ### Calls one after another -/

/-- **What calls of helpers leave**, and how long each program took that was started for them.  A
helper that is not started leaves everything as it is. -/
inductive Leaves (searchPath : String) :
    Machine → List HelperCall → Machine → List Nat → Prop
  | nil {x : Machine} : Leaves searchPath x [] x []
  | started {x after : Machine} {c : HelperCall} {calls : List HelperCall} {done : Completion}
      {times : List Nat} (hrun : runHelper x searchPath c = .ok done)
      (hrest : Leaves searchPath done.machine calls after times) :
      Leaves searchPath x (c :: calls) after (done.elapsed :: times)
  | unstarted {x after : Machine} {c : HelperCall} {calls : List HelperCall} {e : Error}
      {times : List Nat} (hrun : runHelper x searchPath c = .error e)
      (hrest : Leaves searchPath x calls after times) :
      Leaves searchPath x (c :: calls) after times

/-- How long programs take together, none if there was none. -/
def spent : List Nat → Option Nat
  | [] => none
  | time :: times => some (times.foldl (· + ·) time)

/-- The time so far with that of a further program. -/
theorem spent_append_singleton (times : List Nat) (time : Nat) :
    spent (times ++ [time]) = some ((spent times).getD 0 + time) := by
  cases times with
  | nil => simp [spent]
  | cons first times => simp [spent, List.foldl_append]

/-- **Calls leave what running them leaves**, whatever was run before. -/
theorem exists_leaves_after (searchPath : String) (calls : List HelperCall) (m : Machine)
    (before : List Nat) :
    ∃ times, Leaves searchPath m calls (runHelpers searchPath calls (m, spent before)).1 times ∧
      (runHelpers searchPath calls (m, spent before)).2 = spent (before ++ times) := by
  induction calls generalizing m before with
  | nil => exact ⟨[], .nil, by rw [List.append_nil]; rfl⟩
  | cons call calls ih =>
      cases hrun : runHelper m searchPath call with
      | error e =>
          obtain ⟨times, hleaves, htime⟩ := ih m before
          simp only [runHelpers, hrun]
          exact ⟨times, .unstarted hrun hleaves, htime⟩
      | ok done =>
          obtain ⟨times, hleaves, htime⟩ := ih done.machine (before ++ [done.elapsed])
          rw [spent_append_singleton, List.append_assoc] at htime
          rw [spent_append_singleton] at hleaves
          simp only [runHelpers, hrun]
          exact ⟨done.elapsed :: times, .started hrun hleaves, htime⟩

theorem exists_leaves (searchPath : String) (calls : List HelperCall) (m : Machine) :
    ∃ times, Leaves searchPath m calls (runHelpers searchPath calls (m, none)).1 times ∧
      (runHelpers searchPath calls (m, none)).2 = spent times :=
  exists_leaves_after searchPath calls m []

namespace Leaves

variable {calls more : List HelperCall} {after last : Machine} {times others : List Nat}

/-- **All helpers see one environment.** -/
theorem env (h : Leaves searchPath m calls after times) : after.env = m.env := by
  induction h with
  | nil => rfl
  | started hrun _ ih => exact ih.trans (env_runHelper hrun)
  | unstarted _ _ ih => exact ih

/-- So all programs are looked for in the same places. -/
theorem candidates_eq (h : Leaves searchPath m calls after times) (name : String) :
    candidates after searchPath name = candidates m searchPath name := by
  have hdirectory : directoryOf after = directoryOf m := by
    funext dir
    simp only [directoryOf, Machine.home, h.env]
  simp only [candidates, hdirectory]

/-- What is left by calls after others. -/
theorem append (h : Leaves searchPath m calls after times)
    (hmore : Leaves searchPath after more last others) :
    Leaves searchPath m (calls ++ more) last (times ++ others) := by
  induction h with
  | nil => exact hmore
  | started hrun _ ih => exact .started hrun (ih hmore)
  | unstarted hrun _ ih => exact .unstarted hrun (ih hmore)

/-- Calls leave one thing. -/
theorem unique (h : Leaves searchPath m calls after times)
    (h' : Leaves searchPath m calls last others) : after = last ∧ times = others := by
  induction h generalizing last others with
  | nil =>
      cases h'
      exact ⟨rfl, rfl⟩
  | started hrun _ ih =>
      cases h' with
      | started hrun' hrest' =>
          obtain rfl := Except.ok.inj (hrun.symm.trans hrun')
          obtain ⟨rfl, rfl⟩ := ih hrest'
          exact ⟨rfl, rfl⟩
      | unstarted hrun' => cases hrun.symm.trans hrun'
  | unstarted hrun _ ih =>
      cases h' with
      | started hrun' => cases hrun.symm.trans hrun'
      | unstarted _ hrest' => exact ih hrest'

end Leaves

/-- **Each helper finds the files as those before it left them**: to ask after some calls is to ask
on the machine that they left. -/
theorem helperRunner_append {before more : List HelperCall} {after : Machine} {times : List Nat}
    (h : Leaves searchPath m before after times) (call : HelperCall) :
    helperRunner m searchPath (before ++ more) call = helperRunner after searchPath more call := by
  obtain ⟨_, hmore, -⟩ := exists_leaves searchPath more after
  obtain ⟨_, hall, -⟩ := exists_leaves searchPath (before ++ more) m
  obtain ⟨heq, -⟩ := hall.unique (h.append hmore)
  simp only [helperRunner, heq]

/-! ### Lookups -/

open Credentials (Source)

/-- Asking a helper fails for want of it exactly if running it does. -/
theorem queryHelper_eq_helperNotFound_iff {before : List HelperCall} {store key : String}
    {after : Machine} {times : List Nat} (hleaves : Leaves searchPath m before after times) :
    (Credentials.queryHelper (helperRunner m searchPath) before store key).result =
        .error (.helperNotFound name) ↔
      Helper.program store = name ∧ search after searchPath (Helper.program store) = none := by
  obtain ⟨others, hrun, -⟩ := exists_leaves searchPath before m
  obtain ⟨rfl, -⟩ := hleaves.unique hrun
  have hasked : (Credentials.queryHelper (helperRunner m searchPath) before store key).result =
        .error (.helperNotFound name) ↔
      runHelper (runHelpers searchPath before (m, none)).1 searchPath (Helper.call store key) =
        .error (.helperNotFound name) := by
    simp only [Credentials.queryHelper, helperRunner]
    cases runHelper (runHelpers searchPath before (m, none)).1 searchPath
      (Helper.call store key) with
    | error e => simp [Except.map]
    | ok done => simp [Except.map, Helper.interpret_ne_helperNotFound]
  exact hasked.trans runHelper_eq_helperNotFound_iff

/-- A source misses a helper that was configured and that can not be found among the files as the
calls before it left them. -/
theorem answer_eq_helperNotFound_iff {before : List HelperCall} {key : String} {source : Source}
    {after : Machine} {times : List Nat} (hleaves : Leaves searchPath m before after times) :
    source.answer (helperRunner m searchPath) before key = .error (.helperNotFound name) ↔
      ∃ store, source = .helper store ∧ Helper.program store = name ∧
        search after searchPath name = none := by
  cases source with
  | entry e =>
      simp only [Source.answer, reduceCtorEq, false_and, exists_false, iff_false]
      intro h
      cases hpair : e.credentials with
      | ok pair => simp [hpair, Except.map] at h
      | error fault =>
          rw [hpair] at h
          obtain rfl := Except.error.inj h
          exact e.credentials_ne_helperNotFound name hpair
  | platform =>
      simp only [Source.answer, reduceCtorEq, false_and, exists_false, iff_false]
      split
      · simp
      · rename_i hnot
        exact hnot name
  | helper store =>
      refine (queryHelper_eq_helperNotFound_iff hleaves).trans ?_
      constructor
      · rintro ⟨rfl, hsearch⟩
        exact ⟨store, rfl, rfl, hsearch⟩
      · rintro ⟨other, heq, rfl, hsearch⟩
        cases heq
        exact ⟨rfl, hsearch⟩

/-- **A lookup misses only helpers that were configured**: it fails for want of a helper exactly if
a configured one decides, and no program of its name can be found among the files as the helpers
before it left them. -/
theorem lookup_eq_helperNotFound_iff {config : ConfigFile} {host : String} :
    (Credentials.lookup config (helperRunner m searchPath) host).result =
        .error (.helperNotFound name) ↔
      ∃ passed store rest after times,
        Source.inOrder config (Registry.authKey host) = passed ++ .helper store :: rest ∧
        Source.Silent (helperRunner m searchPath) (Registry.authKey host) [] passed ∧
        Leaves searchPath m (passed.flatMap (Source.calls (Registry.authKey host))) after times ∧
        Helper.program store = name ∧
        ∀ path ∈ candidates m searchPath name, isRunnable after.tree path = false := by
  rw [Credentials.lookup_eq_consult]
  constructor
  · intro h
    rcases Source.consult_decided_or_silent (helperRunner m searchPath) (Registry.authKey host)
        (Source.inOrder config (Registry.authKey host)) [] with
      ⟨passed, decider, rest, hsplit, hpassed, -, heq⟩ | ⟨-, heq⟩
    · rw [heq, List.nil_append] at h
      obtain ⟨times, hleaves, -⟩ := exists_leaves searchPath
        (passed.flatMap (Source.calls (Registry.authKey host))) m
      obtain ⟨store, rfl, hname, hsearch⟩ := (answer_eq_helperNotFound_iff hleaves).mp h
      rw [search_eq_none_iff, hleaves.candidates_eq] at hsearch
      exact ⟨passed, store, rest, _, times, hsplit, hpassed, hleaves, hname, hsearch⟩
    · rw [heq] at h
      cases h
  · rintro ⟨passed, store, rest, after, times, hsplit, hpassed, hleaves, hname, hsearch⟩
    rw [← hleaves.candidates_eq, ← search_eq_none_iff] at hsearch
    have hanswer : (Source.helper store).answer (helperRunner m searchPath)
        ([] ++ passed.flatMap (Source.calls (Registry.authKey host))) (Registry.authKey host) =
          .error (.helperNotFound name) :=
      (answer_eq_helperNotFound_iff hleaves).mpr ⟨store, rfl, hname, hsearch⟩
    rw [hsplit, Source.result_consult_of_decides hpassed (by rw [hanswer]; simp), hanswer]

/-- **A lookup within a limit**: it is the lookup, with what its helpers leave, or its programs take
longer than the limit, on the clock that counts whole milliseconds.  A lookup that starts no program
never takes too long. -/
theorem lookupWithin_outcome (limit : Nat) (m : Machine) (searchPath : String) (config : ConfigFile)
    (host : String) :
    ∃ times,
      Leaves searchPath m
        (Credentials.lookup config (helperRunner m searchPath) host).calls
        (lookupWithin limit m searchPath config host).2 times ∧
      ((lookupWithin limit m searchPath config host).1 =
          (Credentials.lookup config (helperRunner m searchPath) host).result ∧
          (∀ time, spent times = some time → Duration.ticks time ≤ Duration.ticks limit) ∨
        (lookupWithin limit m searchPath config host).1 =
          .error (.timeout (Duration.elapsedText limit)) ∧
          ∃ time, spent times = some time ∧ Duration.ticks limit < Duration.ticks time) := by
  obtain ⟨times, hleaves, htime⟩ := exists_leaves searchPath
    (Credentials.lookup config (helperRunner m searchPath) host).calls m
  refine ⟨times, ?_, ?_⟩
  · unfold lookupWithin
    dsimp only
    split <;> exact hleaves
  · simp only [lookupWithin, htime, Duration.race]
    cases spent times with
    | none => simp
    | some time =>
        by_cases hlimit : Duration.ticks time ≤ Duration.ticks limit
        · simp [hlimit]
        · have hlate : Duration.ticks limit < Duration.ticks time := by omega
          simp [hlimit, hlate]

end Program

end DockerClient
