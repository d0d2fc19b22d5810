import DockerClient.Error.Basic
import DockerClient.Proofs.Interleaving
import DockerClient.Resource.Cache
import DockerClient.Resource.Network
import DockerClient.Resource.Volume

/-
**Inspections that run at the same time.**

An inspection looks at the kept record, asks the daemon if there is none to hand out, and keeps what
the daemon answers.  It does not look again before it keeps an answer: of two inspections that both
found nothing, the second replaces the record that the first has already returned.  So what one call
returned is what all later ones return only if nobody is still about to keep something else.

* `InspectCache.Phase`, `InspectCache.Move` — where an inspection stands, and what it can do at
  once; all of them may take the kept record;
* `InspectCache.Named`, `InspectCache.named_of_reachable` — what is kept and returned says what it
  is about, and what was kept once is never nothing again;
* `InspectCache.Stable`, `InspectCache.Settled` — all later calls return a record; it is kept, and
  nobody is about to keep another one;
* `InspectCache.stable_iff_settled` — **a record that was returned is stable exactly if it is
  settled**;
* `InspectCache.exists_not_stable`, `InspectCache.not_forall_stable` — **two inspections that
  overlap can return two records**, and later ones then need not return the first;
* `InspectCache.inspect_alone` — one inspection is a call that nobody disturbs.
-/

set_option relaxedAutoImplicit false
set_option autoImplicit false

namespace DockerClient

namespace InspectCache

variable {α : Type}

/-! ### What an inspection can do -/

/-- Where an inspection stands.  It waits for the daemon if it found no record to hand out, and then
keeps the answer before it returns it. -/
inductive Phase (α : Type) where
  | fresh
  | querying
  | keeping (record : α)
  | returning (record : α)
  | ended (result : Except Error α)

/-- **What an inspection can do at once.**  The daemon answers with any record that says what it is
about, or fails. -/
inductive Move (isNamed : α → Bool) (c : Nat) :
    InspectCache α → Phase α → InspectCache α → Phase α → Prop
  | hit {x record} (h : x.hit? isNamed true = some record) :
      Move isNamed c x .fresh x (.returning record)
  | miss {x} (h : x.hit? isNamed true = none) : Move isNamed c x .fresh x.warn .querying
  | answer {x record} (h : isNamed record = true) : Move isNamed c x .querying x (.keeping record)
  | fail {x} (e : Error) : Move isNamed c x .querying x (.ended (.error e))
  | keep {x record} : Move isNamed c x (.keeping record) (x.keep record) (.returning record)
  | return {x record} : Move isNamed c x (.returning record) x (.ended (.ok record))

/-- All inspections of one resource. -/
abbrev Inspections (α : Type) := Crowd (InspectCache α) (Phase α)

/-- The states that the inspections of a new resource can lead to. -/
def Reachable (isNamed : α → Bool) (s : Inspections α) : Prop :=
  Crowd.Run (Move isNamed) ⟨{}, fun _ => .fresh⟩ s

variable {isNamed : α → Bool} {s t : Inspections α}

/-! ### What every state has -/

/-- What a call has says what it is about, and what a call returns was kept. -/
def Phase.Named (isNamed : α → Bool) (x : InspectCache α) : Phase α → Prop
  | .keeping record => isNamed record = true
  | .returning record | .ended (.ok record) => isNamed record = true ∧ x.record ≠ none
  | _ => True

/-- What is kept and what calls have says what it is about. -/
def Named (isNamed : α → Bool) (s : Inspections α) : Prop :=
  Crowd.Holds (fun x => ∀ record, x.record = some record → isNamed record = true)
    (fun _ x p => p.Named isNamed x) s

/-- What was kept is not forgotten. -/
theorem Move.record_ne_none {c : Nat} {x y : InspectCache α} {p q : Phase α}
    (h : Move isNamed c x p y q) (hx : x.record ≠ none) : y.record ≠ none := by
  cases h with
  | miss => rwa [record_warn]
  | keep => simp
  | hit | answer | fail | «return» => exact hx

/-- **What is kept and what calls have says what it is about**, in every state that can be
reached. -/
theorem named_of_reachable (h : Reachable isNamed s) : Named isNamed s := by
  have start : Named isNamed (⟨{}, fun _ => .fresh⟩ : Inspections α) :=
    ⟨by simp, fun _ => trivial⟩
  refine Crowd.holds_run ?_ ?_ start h
  · intro c x p y q hx hp hmove
    cases hmove with
    | hit hhit =>
        obtain ⟨-, hrecord, hnamed⟩ := hit?_eq_some_iff.mp hhit
        exact ⟨hx, hnamed, by simp [hrecord]⟩
    | miss => exact ⟨by rwa [record_warn], trivial⟩
    | answer hnamed => exact ⟨hx, hnamed⟩
    | fail => exact ⟨hx, trivial⟩
    | keep =>
        refine ⟨?_, hp, by simp⟩
        intro record hrecord
        rw [record_keep, Option.some.injEq] at hrecord
        rwa [← hrecord]
    | «return» => exact ⟨hx, hp⟩
  · intro c d x p y q r _ _ _ hr hmove
    cases r with
    | returning record => exact ⟨hr.1, hmove.record_ne_none hr.2⟩
    | ended result =>
        cases result with
        | ok record => exact ⟨hr.1, hmove.record_ne_none hr.2⟩
        | error e => trivial
    | keeping record => exact hr
    | fresh | querying => trivial

/-- Almost no call has begun. -/
theorem exists_fresh (h : Reachable isNamed s) : ∃ n, ∀ c, n ≤ c → s.phase c = .fresh := by
  induction h with
  | refl => exact ⟨0, fun _ _ => rfl⟩
  | @tail u _ _ hstep ih =>
      obtain ⟨n, hn⟩ := ih
      cases hstep with
      | @of d y q hmove =>
          refine ⟨max n (d + 1), fun c hc => ?_⟩
          have hcd : c ≠ d := by omega
          rw [Crowd.put_phase_of_ne u hcd]
          exact hn c (by omega)

/-! ### Stable records -/

/-- Every call that has not begun will return the record, if it returns one. -/
def Stable (isNamed : α → Bool) (s : Inspections α) (record : α) : Prop :=
  ∀ c, s.phase c = .fresh → ∀ t other, Crowd.Run (Move isNamed) s t →
    t.phase c = .ended (.ok other) → other = record

/-- The record is kept, nobody waits for the daemon, and nobody is about to keep another one. -/
structure Settled (s : Inspections α) (record : α) : Prop where
  kept : s.shared.record = some record
  quiet : ∀ c, s.phase c ≠ .querying
  agreed : ∀ c other, s.phase c = .keeping other → other = record

/-- A call that has not begun can take the record that is kept. -/
theorem run_hit {c : Nat} {record : α} (h : Crowd.Run (Move isNamed) s t)
    (hc : t.phase c = .fresh) (hrecord : t.shared.record = some record)
    (hnamed : isNamed record = true) :
    ∃ u, Crowd.Run (Move isNamed) s u ∧ u.phase c = .ended (.ok record) := by
  have hhit : t.shared.hit? isNamed true = some record :=
    hit?_eq_some_iff.mpr ⟨rfl, hrecord, hnamed⟩
  have taken := h.move c hc (.hit hhit)
  exact ⟨_, taken.move c (Crowd.put_phase_self t c _ _) .return, Crowd.put_phase_self _ c _ _⟩

/-- What a call keeps, a call that has not begun returns. -/
theorem eq_of_keeping {c d : Nat} {record other : α} (hstable : Stable isNamed s record)
    (hd : s.phase d = .fresh) (hrun : Crowd.Run (Move isNamed) s t) (hdt : t.phase d = .fresh)
    (hc : t.phase c = .keeping other) (hnamed : isNamed other = true) : other = record := by
  have hne : d ≠ c := by
    rintro rfl
    simp [hc] at hdt
  have kept := hrun.move c hc .keep
  obtain ⟨u, hu, hended⟩ := run_hit kept (by rwa [Crowd.put_phase_of_ne t hne]) (by simp) hnamed
  exact hstable d hd u other hu hended

/-- As long as another record can be kept, what was returned is not stable. -/
theorem settled_of_stable {c : Nat} {record : α} (h : Reachable isNamed s)
    (hc : s.phase c = .ended (.ok record))
    (hother : ∃ other, isNamed other = true ∧ other ≠ record)
    (hstable : Stable isNamed s record) : Settled s record := by
  obtain ⟨n, hfresh⟩ := exists_fresh h
  have hn : s.phase n = .fresh := hfresh n (Nat.le_refl n)
  obtain ⟨hkept, hcalls⟩ := named_of_reachable h
  -- the call that has not begun returns what is kept, can be answered, or is about to be kept
  refine ⟨?_, ?_, ?_⟩
  · have hreturned := hcalls c
    rw [hc] at hreturned
    cases hrecord : s.shared.record with
    | none => exact absurd hrecord hreturned.2
    | some other =>
        obtain ⟨u, hu, hended⟩ := run_hit .refl hn hrecord (hkept other hrecord)
        rw [hstable n hn u other hu hended]
  · intro d hd
    obtain ⟨other, hnamed, hne⟩ := hother
    have hnd : n ≠ d := by
      rintro rfl
      simp [hn] at hd
    have answered : Crowd.Run (Move isNamed) s (s.put d s.shared (.keeping other)) :=
      Crowd.Run.move .refl d hd (.answer hnamed)
    refine hne (eq_of_keeping hstable hn answered ?_ (Crowd.put_phase_self s d _ _) hnamed)
    rwa [Crowd.put_phase_of_ne s hnd]
  · intro d other hd
    have hnamed := hcalls d
    rw [hd] at hnamed
    exact eq_of_keeping hstable hn .refl hn hd hnamed

/-- A call that begins while a record is settled takes it. -/
def Phase.Takes (record : α) (p : Phase α) : Prop :=
  p = .fresh ∨ p = .returning record ∨ p = .ended (.ok record)

/-- **Calls that begin while a record is settled return it.** -/
theorem stable_of_settled {record : α} (hnamed : isNamed record = true) (h : Settled s record) :
    Stable isNamed s record := by
  intro c hc t other hrun hended
  have holds : Crowd.Holds (fun x => x.record = some record)
      (fun d _ p => p ≠ .querying ∧ (∀ other, p = .keeping other → other = record) ∧
        (s.phase d = .fresh → p.Takes record)) t := by
    refine Crowd.holds_run ?_ (fun _ _ _ _ _ _ _ _ _ _ hr _ => hr)
      ⟨h.kept, fun d => ⟨h.quiet d, h.agreed d, .inl⟩⟩ hrun
    intro d x p y q hx hp hmove
    have hfound : x.hit? isNamed true = some record := hit?_eq_some_iff.mpr ⟨rfl, hx, hnamed⟩
    obtain ⟨hquiet, hagreed, htakes⟩ := hp
    cases hmove with
    | hit hhit =>
        rw [hfound, Option.some.injEq] at hhit
        exact ⟨hx, by simp, by simp, fun _ => .inr (.inl (by rw [hhit]))⟩
    | miss hmiss => simp [hfound] at hmiss
    | answer | fail => exact absurd rfl hquiet
    | keep =>
        obtain rfl := hagreed _ rfl
        refine ⟨by simp, by simp, by simp, fun hd => .inr (.inl rfl)⟩
    | «return» =>
        refine ⟨hx, by simp, by simp, fun hd => ?_⟩
        have htaken := htakes hd
        simp only [Phase.Takes, reduceCtorEq, Phase.returning.injEq, false_or, or_false] at htaken
        exact .inr (.inr (by rw [htaken]))
  have htaken := (holds.2 c).2.2 hc
  simp only [hended, Phase.Takes, reduceCtorEq, Phase.ended.injEq, Except.ok.injEq,
    false_or] at htaken
  exact htaken

/-- **A record that was returned is stable exactly if it is settled**, as soon as the daemon can
answer with another one. -/
theorem stable_iff_settled {c : Nat} {record : α} (h : Reachable isNamed s)
    (hc : s.phase c = .ended (.ok record))
    (hother : ∃ other, isNamed other = true ∧ other ≠ record) :
    Stable isNamed s record ↔ Settled s record := by
  refine ⟨settled_of_stable h hc hother, stable_of_settled ?_⟩
  have hreturned := (named_of_reachable h).2 c
  rw [hc] at hreturned
  exact hreturned.1

/-! ### Inspections that overlap -/

/-- **Inspections that overlap**: one has returned a record while another waits for the daemon. -/
theorem exists_not_stable {record other : α} (hrecord : isNamed record = true)
    (hother : isNamed other = true) (hne : other ≠ record) :
    ∃ s : Inspections α, Reachable isNamed s ∧ s.phase 0 = .ended (.ok record) ∧
      ¬Stable isNamed s record := by
  have start : Reachable isNamed ⟨{}, fun _ => .fresh⟩ := .refl
  have both := (start.move 0 rfl (.miss rfl)).move 1 rfl (.miss rfl)
  have kept := (both.move 0 rfl (.answer hrecord)).move 0 rfl .keep
  have returned := kept.move 0 rfl .return
  -- the second call still waits for the daemon
  refine ⟨_, returned, rfl, fun hstable => ?_⟩
  exact (settled_of_stable (c := 0) returned rfl ⟨other, hother, hne⟩ hstable).quiet 1 rfl

/-- Neither the records of a network nor those of a volume are stable once they were returned: what
else is said in them can change between two requests. -/
theorem not_forall_stable :
    (¬∀ (s : Inspections NetworkRecord) c record, Reachable NetworkRecord.isNamed s →
        s.phase c = .ended (.ok record) → Stable NetworkRecord.isNamed s record) ∧
      ¬∀ (s : Inspections VolumeRecord) c record, Reachable VolumeRecord.isNamed s →
        s.phase c = .ended (.ok record) → Stable VolumeRecord.isNamed s record := by
  constructor
  · intro hstable
    let before : NetworkRecord := ⟨some "n1", none, none, none, some false, none, []⟩
    let after : NetworkRecord := ⟨some "n1", none, none, none, some true, none, []⟩
    have hbefore : NetworkRecord.isNamed before = true := rfl
    have hafter : NetworkRecord.isNamed after = true := rfl
    have hne : after ≠ before := by simp [before, after]
    obtain ⟨s, hs, hended, hnot⟩ := exists_not_stable hbefore hafter hne
    exact hnot (hstable s 0 before hs hended)
  · intro hstable
    let before : VolumeRecord := ⟨"v1", "local", "/a", Table.empty, Table.empty⟩
    let after : VolumeRecord := ⟨"v1", "local", "/b", Table.empty, Table.empty⟩
    have hbefore : VolumeRecord.isNamed before = true := rfl
    have hafter : VolumeRecord.isNamed after = true := rfl
    have hne : after ≠ before := by simp [before, after]
    obtain ⟨s, hs, hended, hnot⟩ := exists_not_stable hbefore hafter hne
    exact hnot (hstable s 0 before hs hended)

/-- **What one inspection does** is what a call can do that nobody disturbs. -/
theorem inspect_alone {σ : Type} {query : σ → Except Error α × σ} {cache : InspectCache α}
    {scene : σ} (hnamed : ∀ record, (query scene).1 = .ok record → isNamed record = true) :
    ∃ t : Inspections α, Crowd.Run (Move isNamed) ⟨cache, fun _ => .fresh⟩ t ∧
      t.phase 0 = .ended (cache.inspect isNamed true query scene).result ∧
      t.shared = (cache.inspect isNamed true query scene).cache := by
  have start : Crowd.Run (Move isNamed) (⟨cache, fun _ => .fresh⟩ : Inspections α) _ := .refl
  unfold inspect
  cases hhit : cache.hit? isNamed true with
  | some record => exact ⟨_, (start.move 0 rfl (.hit hhit)).move 0 rfl .return, rfl, rfl⟩
  | none =>
      have asked := start.move 0 rfl (.miss hhit)
      rcases hquery : query scene with ⟨result, after⟩
      cases result with
      | ok record =>
          have answered := asked.move 0 rfl (.answer (hnamed record (by rw [hquery])))
          exact ⟨_, (answered.move 0 rfl .keep).move 0 rfl .return, rfl, rfl⟩
      | error e => exact ⟨_, asked.move 0 rfl (.fail e), rfl, rfl⟩

end InspectCache

end DockerClient
