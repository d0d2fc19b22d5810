import DockerClient.Proofs.HandleSessions
import DockerClient.Proofs.SharedClientCalls

/-
**The shared client is made once, and all who want it get the same.**

While a call makes the client it is alone, so no other call does; once something came of it, it is
kept, and nobody begins again.  What a call relies on says how many began: all who did were dropped,
but for the one that is still at it, or whose outcome was kept.

* `SharedClient.Shared.Sound`, `SharedClient.Phase.Rely` — what makes sense of what is shared, and
  what a call relies on;
* `SharedClient.Move.sound`, `SharedClient.Move.rely`, `SharedClient.Move.rely_other` — a move
  keeps them;
* `SharedClient.Sound`, `SharedClient.sound_of_reachable` — **they hold in every state that can be
  reached**;
* `SharedClient.endsAlone_of_alone`, `SharedClient.finish` — a call that is alone comes to its end
  by itself, and then every other call can;
* `SharedClient.Agreed`, `SharedClient.agreed_of_reachable` — **what is promised to those who want
  the shared client**;
* `Session.sharedClient_alone` — in a session, such a call runs by itself.
-/

set_option relaxedAutoImplicit false
set_option autoImplicit false

namespace DockerClient

namespace SharedClient

variable {K : Type}

/-! ### The invariant -/

/-- All who began to make a client were dropped, but for the one whose outcome was kept. -/
def Shared.Settled (x : Shared K) : Prop := x.started.length = x.abandoned.length + x.kept.length

/-- Nothing is kept, and one who began to make a client was not dropped. -/
def Shared.Underway (x : Shared K) : Prop :=
  x.outcome = none ∧ x.started.length = x.abandoned.length + 1

/-- What is shared makes sense: what is kept was kept once, and nobody is at it who does not hold
the lock. -/
structure Shared.Sound (x : Shared K) : Prop where
  kept_eq : x.kept = x.outcome.toList
  settled : x.lock = .free ∨ x.outcome ≠ none → x.Settled

/-- What a call relies on. -/
def Phase.Rely (x : Shared K) : Phase K → Prop
  | .checking => x.Settled
  | .making | .keeping _ => x.Underway
  | .leaving outcome | .returning outcome => x.outcome = some outcome
  | .ended result => ∃ outcome, x.outcome = some outcome ∧ result = handOut outcome
  | .fresh | .queueing | .dropped => True

/-- The invariant of all calls: what is shared makes sense, the lock grants what the phases say,
every call has what it relies on, and who was dropped while making a client does not go on. -/
def Sound (s : System K) : Prop :=
  Crowd.Holds Shared.Sound (fun c x p => x.lock.access c = p.access ∧ p.Rely x ∧
    (c ∈ x.abandoned → p = .dropped)) s

namespace Shared

variable {x : Shared K}

theorem kept_of_none (hx : x.Sound) (h : x.outcome = none) : x.kept = [] := by
  rw [hx.kept_eq, h]
  rfl

theorem settled_of_some (hx : x.Sound) {outcome : Except Error K} (h : x.outcome = some outcome) :
    x.Settled :=
  hx.settled (.inr (by simp [h]))

/-- Who is at it and keeps what came of it settles the matter. -/
theorem sound_of_underway (hx : x.Sound) (h : x.Underway) (outcome : Except Error K) :
    Sound { x with outcome := some outcome, kept := x.kept ++ [outcome] } := by
  have hkept : x.kept = [] := kept_of_none hx h.1
  refine ⟨by simp [hkept], fun _ => ?_⟩
  simp [Settled, hkept, h.2]

end Shared

/-! ### One move -/

namespace Move

variable {c d : Nat} {x y : Shared K} {p q r : Phase K}

/-- **A move keeps the sense of what is shared.** -/
theorem sound (h : Move c x p y q) (hx : x.Sound) (hc : x.lock.access c = p.access)
    (hp : p.Rely x) : y.Sound := by
  cases h with
  | findFirst | missFirst | findSecond | made | giveBack | dropQueueing => exact hx
  | seize h =>
      obtain ⟨-, rfl⟩ := Lock.seize?_eq_some_iff.mp h
      exact ⟨hx.kept_eq, fun hor => hx.settled (.inr (hor.resolve_left (by simp [Lock.free])))⟩
  | make h =>
      -- one who began is not dropped and has kept nothing, but the lock is held alone
      have hheld : x.lock ≠ .free := by simp [Lock.access_eq_alone_iff.mp hc, Lock.free]
      exact ⟨hx.kept_eq, fun hor => (hor.elim hheld (· h)).elim⟩
  | @keep outcome =>
      rw [Shared.getOrKeep_of_none hp.1]
      exact Shared.sound_of_underway hx hp outcome
  | leave =>
      have hsettled : x.Settled := Shared.settled_of_some hx hp
      exact ⟨hx.kept_eq, fun _ => hsettled⟩
  | dropChecking => exact ⟨hx.kept_eq, fun _ => hp⟩
  | dropMaking =>
      refine ⟨hx.kept_eq, fun _ => ?_⟩
      simp [Shared.Settled, Shared.kept_of_none hx hp.1, hp.2]

/-- **A move gives the call what it then relies on.** -/
theorem rely (h : Move c x p y q) (hx : x.Sound) (hp : p.Rely x) : q.Rely y := by
  cases h with
  | missFirst | dropQueueing | dropChecking | dropMaking => trivial
  | findFirst h | findSecond h => exact h
  | seize h => exact hx.settled (.inl (Lock.seize?_eq_some_iff.mp h).1)
  | make h =>
      have hsettled : x.Settled := hp
      exact ⟨h, by simpa [Shared.Settled, Shared.kept_of_none hx h] using hsettled⟩
  | made => exact hp
  | keep =>
      rw [Shared.getOrKeep_of_none hp.1]
      exact rfl
  | leave | giveBack => exact ⟨_, hp, rfl⟩

/-- **A move leaves the other calls what they rely on.** -/
theorem rely_other (h : Move c x p y q) (hne : d ≠ c) (hc : x.lock.access c = p.access)
    (hd : x.lock.access d = r.access) (hr : r.Rely x) : r.Rely y := by
  -- while the other call is alone, the one that moves changes nothing but the lock
  have still (halone : r.access = .alone) : y = { x with lock := y.lock } := by
    refine h.frame ?_
    rw [← hc, Lock.access_of_alone (hd.trans halone) hne.symm]
    simp
  cases r with
  | checking | making | keeping _ =>
      rw [still rfl]
      exact hr
  | leaving outcome | returning outcome => exact (h.outcome_eq hr).1
  | ended result =>
      obtain ⟨outcome, hheld, hresult⟩ := hr
      exact ⟨outcome, (h.outcome_eq hheld).1, hresult⟩
  | fresh | queueing | dropped => trivial

/-- Only a call that is dropped is noted as such. -/
theorem mem_abandoned (h : Move c x p y q) (hd : d ∈ y.abandoned) :
    d ∈ x.abandoned ∨ d = c ∧ q = .dropped := by
  cases h with
  | keep =>
      unfold Shared.getOrKeep at hd
      split at hd <;> exact .inl hd
  | dropMaking => exact (List.mem_cons.mp hd).symm.imp_right fun h => ⟨h, rfl⟩
  | _ => exact .inl hd

/-- A call that was dropped makes no move. -/
theorem ne_dropped (h : Move c x p y q) : p ≠ .dropped := by
  rintro rfl
  cases h

end Move

/-! ### Runs -/

theorem sound_untouched : Sound (untouched : System K) :=
  ⟨⟨rfl, fun _ => rfl⟩, fun _ => ⟨rfl, trivial, fun h => by cases h⟩⟩

/-- **The invariant is kept by every run.** -/
theorem sound_of_run {s t : System K} (hs : Sound s) (h : Run s t) : Sound t := by
  refine Crowd.holds_run ?_ ?_ hs h
  · rintro c x p y q hx ⟨haccess, hrely, hdropped⟩ hmove
    refine ⟨hmove.sound hx haccess hrely, ?_, hmove.rely hx hrely, fun hmem => ?_⟩
    · rw [hmove.access_eq haccess, Function.update_self]
    · rcases hmove.mem_abandoned hmem with hbefore | ⟨-, hnow⟩
      · exact absurd (hdropped hbefore) hmove.ne_dropped
      · exact hnow
  · rintro c d x p y q r hne hx ⟨haccess, -, -⟩ ⟨hother, hrely, hdropped⟩ hmove
    refine ⟨?_, hmove.rely_other hne haccess hother hrely, fun hmem => ?_⟩
    · rw [hmove.access_eq haccess, Function.update_of_ne hne, hother]
    · exact hdropped ((hmove.mem_abandoned hmem).resolve_right fun h => hne h.1)

/-- **The invariant holds in every state that can be reached.** -/
theorem sound_of_reachable {s : System K} (h : Reachable s) : Sound s :=
  sound_of_run sound_untouched h

/-- A call that has ended gave what is kept. -/
theorem exists_outcome_of_ended {s : System K} (hs : Sound s) {c : Nat} {result : Except Error K}
    (hc : s.phase c = .ended result) :
    ∃ outcome, s.shared.outcome = some outcome ∧ result = handOut outcome := by
  have hrely := (hs.2 c).2.1
  rwa [hc] at hrely

/-- A call that makes a client is alone, and nothing is kept. -/
theorem alone_of_making {s : System K} (hs : Sound s) {c : Nat} (hc : s.phase c = .making) :
    s.shared.lock = .exclusive c ∧ s.shared.outcome = none := by
  obtain ⟨haccess, hrely, -⟩ := hs.2 c
  rw [hc] at haccess hrely
  exact ⟨Lock.access_eq_alone_iff.mp haccess, hrely.1⟩

/-- Once a call has ended, all who began to make a client were dropped, but for one. -/
theorem started_of_ended {s : System K} (hs : Sound s) {c : Nat} {result : Except Error K}
    (hc : s.phase c = .ended result) :
    s.shared.started.length = s.shared.abandoned.length + 1 := by
  obtain ⟨outcome, hheld, -⟩ := exists_outcome_of_ended hs hc
  have hsettled : s.shared.Settled := Shared.settled_of_some hs.1 hheld
  rwa [Shared.Settled, hs.1.kept_eq, hheld] at hsettled

/-- **What is kept stays as it is**, and nobody begins to make a client any more. -/
theorem outcome_of_run {s t : System K} {outcome : Except Error K}
    (hs : s.shared.outcome = some outcome) (h : Run s t) :
    t.shared.outcome = some outcome ∧ t.shared.kept = s.shared.kept ∧
      t.shared.started = s.shared.started := by
  induction h with
  | refl => exact ⟨hs, rfl, rfl⟩
  | tail _ hstep ih =>
      cases hstep with
      | of hmove =>
          obtain ⟨hheld, hkept, hstarted⟩ := hmove.outcome_eq ih.1
          exact ⟨hheld, hkept.trans ih.2.1, hstarted.trans ih.2.2⟩

/-! ### Calls come to their end -/

/-- A call can go on by itself to its end, and leaves the lock. -/
def EndsAlone (c : Nat) (x : Shared K) (p : Phase K) : Prop :=
  ∃ y result, Crowd.Solo Move c (x, p) (y, .ended result) ∧ y.lock = x.lock.leave c

theorem EndsAlone.head {c : Nat} {x y : Shared K} {p q : Phase K} (h : EndsAlone c y q)
    (hmove : Move c x p y q) (hlock : y.lock = x.lock) : EndsAlone c x p := by
  obtain ⟨z, result, hsolo, hleft⟩ := h
  exact ⟨z, result, hsolo.head hmove, by rw [hleft, hlock]⟩

/-- **A call that is alone can go on by itself to its end.** -/
theorem endsAlone_of_alone (c : Nat) (x : Shared K) {p : Phase K} (hp : p.access = .alone) :
    EndsAlone c x p := by
  -- from the last phase to the first
  have leaving (x : Shared K) (outcome) : EndsAlone c x (.leaving outcome) :=
    ⟨_, _, .single .leave, rfl⟩
  have keeping (x : Shared K) (outcome) : EndsAlone c x (.keeping outcome) :=
    (leaving _ _).head .keep (Shared.lock_getOrKeep x outcome)
  have making (x : Shared K) : EndsAlone c x .making :=
    (keeping x (.error .closed)).head (.made _) rfl
  cases p with
  | leaving outcome => exact leaving x outcome
  | keeping outcome => exact keeping x outcome
  | making => exact making x
  | checking =>
      cases h : x.outcome with
      | some outcome => exact (leaving x outcome).head (.findSecond h) rfl
      | none => exact (making { x with started := c :: x.started }).head (.make h) rfl
  | fresh | queueing | returning _ | ended _ | dropped => cases hp

/-- No call is dropped that was not dropped before. -/
def DropsNone (s t : System K) : Prop := ∀ d, t.phase d = .dropped → s.phase d = .dropped

theorem dropsNone_put {s : System K} {c : Nat} {y : Shared K} {q : Phase K} (h : q ≠ .dropped) :
    DropsNone s (s.put c y q) := by
  intro d hd
  by_cases hdc : d = c
  · subst hdc
    rw [Crowd.put_phase_self] at hd
    exact absurd hd h
  · rwa [Crowd.put_phase_of_ne s hdc] at hd

/-- A call can be brought to its end without dropping any. -/
def Finishes (s : System K) (c : Nat) : Prop :=
  ∃ t result, Run s t ∧ t.phase c = .ended result ∧ DropsNone s t

/-- A call can be brought to its end if it can after a run that drops none. -/
theorem Finishes.of_run {s t : System K} {c : Nat} (h : Finishes t c) (hst : Run s t)
    (hnone : DropsNone s t) : Finishes s c := by
  obtain ⟨u, result, htu, hended, hdrops⟩ := h
  exact ⟨u, result, hst.trans htu, hended, fun d hd => hnone d (hdrops d hd)⟩

/-- A call that goes on by itself to its end can be brought there. -/
theorem finishes_of_solo {s : System K} {c : Nat} {y : Shared K} {result : Except Error K}
    (h : Crowd.Solo Move c (s.shared, s.phase c) (y, .ended result)) : Finishes s c :=
  ⟨_, result, Crowd.run_of_solo h, Crowd.put_phase_self s c y _, dropsNone_put (by simp)⟩

/-- **Who holds the lock can go on until it is free**, while a call rests that does not hold it. -/
theorem vacated {s : System K} (hs : Sound s) {c : Nat} (hc : (s.phase c).access = .out) :
    ∃ t, Run s t ∧ t.shared.lock = .free ∧ t.phase c = s.phase c ∧ DropsNone s t := by
  by_cases hfree : s.shared.lock = .free
  · exact ⟨s, .refl, hfree, rfl, fun _ h => h⟩
  · obtain ⟨holder, hholds⟩ := Lock.exists_holder hfree
    rw [(hs.2 holder).1] at hholds
    have halone : (s.phase holder).access = .alone := by
      cases hp : s.phase holder <;> simp_all [Phase.access]
    have hlock : s.shared.lock = .exclusive holder := by
      rw [← Lock.access_eq_alone_iff, (hs.2 holder).1, halone]
    have hne : c ≠ holder := by
      rintro rfl
      exact hholds hc
    obtain ⟨y, result, hsolo, hleft⟩ := endsAlone_of_alone holder s.shared halone
    refine ⟨_, Crowd.run_of_solo hsolo, ?_, Crowd.put_phase_of_ne s hne y _,
      dropsNone_put (by simp)⟩
    rw [Crowd.put_shared, hleft, hlock]
    rfl

/-- A call that waits for the lock can be brought to its end. -/
theorem finishes_of_queueing {s : System K} (hs : Sound s) {c : Nat}
    (hc : s.phase c = .queueing) : Finishes s c := by
  obtain ⟨t, hst, hfree, hphase, hnone⟩ := vacated hs (c := c) (by rw [hc]; rfl)
  refine Finishes.of_run ?_ hst hnone
  -- the lock is free, so the call gets it and goes on by itself
  obtain ⟨y, result, hsolo, -⟩ :=
    endsAlone_of_alone c { t.shared with lock := .exclusive c } (p := .checking) rfl
  have hseize : Move c t.shared (t.phase c) { t.shared with lock := .exclusive c } .checking := by
    rw [hphase, hc]
    exact .seize (Lock.seize?_eq_some_iff.mpr ⟨hfree, rfl⟩)
  exact finishes_of_solo (hsolo.head hseize)

/-- **Every call that was not dropped can be brought to its end**, without dropping any. -/
theorem finish {s : System K} (hs : Sound s) {c : Nat} (hc : s.phase c ≠ .dropped) :
    Finishes s c := by
  cases hp : s.phase c with
  | fresh =>
      cases hheld : s.shared.outcome with
      | some outcome =>
          have found : Crowd.Solo Move c (s.shared, s.phase c) (s.shared, .returning outcome) := by
            rw [hp]
            exact .single (.findFirst hheld)
          exact finishes_of_solo (found.tail .giveBack)
      | none =>
          have rest : Run s s := .refl
          have missed := rest.move c hp (.missFirst hheld)
          have waits : Finishes (s.put c s.shared .queueing) c :=
            finishes_of_queueing (sound_of_run hs missed) (Crowd.put_phase_self s c _ _)
          exact waits.of_run missed (dropsNone_put (by simp))
  | queueing => exact finishes_of_queueing hs hp
  | checking | making | keeping _ | leaving _ =>
      have halone : (s.phase c).access = .alone := by
        rw [hp]
        rfl
      obtain ⟨y, result, hsolo, -⟩ := endsAlone_of_alone c s.shared halone
      exact finishes_of_solo hsolo
  | returning outcome =>
      have hback : Crowd.Solo Move c (s.shared, s.phase c)
          (s.shared, .ended (handOut outcome)) := by
        rw [hp]
        exact .single .giveBack
      exact finishes_of_solo hback
  | ended result => exact ⟨s, result, .refl, hp, fun _ h => h⟩
  | dropped => exact absurd hp hc

/-! ### The promises -/

/-- What is promised to those who want the shared client, in one state and in all that follow it. -/
structure Agreed (s : System K) : Prop where
  kept_once : s.shared.kept.length ≤ 1 ∧ s.shared.kept = s.shared.outcome.toList
  /-- What is kept is never replaced, and nobody begins to make a client any more. -/
  kept_forever : ∀ outcome, s.shared.outcome = some outcome → ∀ t, Run s t →
    t.shared.outcome = some outcome ∧ t.shared.kept = s.shared.kept ∧
      t.shared.started = s.shared.started
  one_maker : ∀ c d, s.phase c = .making → s.phase d = .making → c = d
  maker_first : ∀ c, s.phase c = .making → s.shared.outcome = none
  /-- Every call that ends gives what is kept: the client, or that it could not be made and why. -/
  same_answer : ∀ c result, s.phase c = .ended result →
    (∃ client, s.shared.outcome = some (.ok client) ∧ result = .ok client) ∨
      ∃ e, s.shared.outcome = some (.error e) ∧ result = .error (.init e)
  all_agree : ∀ c result, s.phase c = .ended result →
    ∀ t, Run s t → ∀ d answer, t.phase d = .ended answer → answer = result
  /-- Once a call has ended, all who began to make a client were dropped, but for one. -/
  made_once : ∀ c result, s.phase c = .ended result →
    s.shared.started.length = s.shared.abandoned.length + 1
  /-- If no call was dropped and one has ended, a client was made exactly once. -/
  made_once_undropped : (∀ c, s.phase c ≠ .dropped) → ∀ c result, s.phase c = .ended result →
    s.shared.started.length = 1
  finishes : ∀ c, s.phase c ≠ .dropped → Finishes s c

/-- **All who want the shared client agree on it**: in every state that any number of calls can
reach. -/
theorem agreed_of_reachable {s : System K} (h : Reachable s) : Agreed s := by
  have hs : Sound s := sound_of_reachable h
  constructor
  case kept_once =>
    refine ⟨?_, hs.1.kept_eq⟩
    rw [hs.1.kept_eq]
    cases s.shared.outcome <;> simp
  case kept_forever => exact fun _ hheld _ hst => outcome_of_run hheld hst
  case one_maker =>
    intro c d hc hd
    have hlock := (alone_of_making hs hc).1.symm.trans (alone_of_making hs hd).1
    exact Lock.exclusive.inj hlock
  case maker_first => exact fun _ hc => (alone_of_making hs hc).2
  case same_answer =>
    intro c result hended
    obtain ⟨outcome, hheld, hresult⟩ := exists_outcome_of_ended hs hended
    cases outcome with
    | ok client => exact .inl ⟨client, hheld, hresult⟩
    | error e => exact .inr ⟨e, hheld, hresult⟩
  case all_agree =>
    intro c result hended t hst d answer hanswer
    obtain ⟨outcome, hheld, rfl⟩ := exists_outcome_of_ended hs hended
    obtain ⟨later, hlater, rfl⟩ := exists_outcome_of_ended (sound_of_run hs hst) hanswer
    rw [(outcome_of_run hheld hst).1, Option.some.injEq] at hlater
    rw [hlater]
  case made_once => exact fun _ _ => started_of_ended hs
  case made_once_undropped =>
    intro hnone c result hended
    have habandoned : s.shared.abandoned = [] :=
      List.eq_nil_iff_forall_not_mem.mpr fun d hd => hnone d ((hs.2 d).2.2 hd)
    rw [started_of_ended hs hended, habandoned]
    rfl
  case finishes => exact fun _ => finish hs

/-- A call was dropped while it made a client, a second one failed to make it while a third waited,
and a fourth found what was kept. -/
theorem agreed_after_dropped_run :
    ∃ s : System Nat, Reachable s ∧ s.phase 0 = .dropped ∧
      s.phase 1 = .ended (.error (.init .closed)) ∧ s.phase 2 = .queueing ∧
      s.phase 3 = .ended (.error (.init .closed)) ∧ Agreed s := by
  have start : Run (untouched : System Nat) untouched := .refl
  have waiting := ((start.move 0 rfl (.missFirst rfl)).move 1 rfl (.missFirst rfl)).move 2 rfl
    (.missFirst rfl)
  have dropped := ((waiting.move 0 rfl (.seize rfl)).move 0 rfl (.make rfl)).move 0 rfl .dropMaking
  have making := (dropped.move 1 rfl (.seize rfl)).move 1 rfl (.make rfl)
  have kept := (making.move 1 rfl (.made (.error .closed))).move 1 rfl .keep
  have failed := kept.move 1 rfl .leave
  have run := (failed.move 3 rfl (.findFirst rfl)).move 3 rfl .giveBack
  exact ⟨_, run, rfl, rfl, rfl, rfl, agreed_of_reachable run⟩

end SharedClient

/-! ### In a session -/

namespace Session

/-- What is kept is handed out. -/
theorem perform_ofShared (made : Except Error Nat) (s : Session) :
    (ofShared made).perform s = (SharedClient.handOut made, s) := by
  cases made <;> rfl

/-- Whatever came of making the shared client is kept and handed out. -/
theorem exists_perform_makeShared (sr : Surroundings) (s : Session) :
    ∃ made t, (makeShared sr).perform s = (.ok made, t) ∧ t.shared = some made := by
  rw [makeShared, Act.perform_bind, Act.perform_outcome]
  rcases (build sr []).perform s with ⟨made, built⟩
  cases made with
  | ok client => exact ⟨.ok client, { built with shared := some (.ok client) }, rfl, rfl⟩
  | error e =>
      exact ⟨.error e,
        { built with
          scene := built.scene.note (.warned (sharedFailed sr.world.words e))
          shared := some (.error e) }, rfl, rfl⟩

/-- **The shared client of a session** is what a call gives that runs by itself, and what came of it
is kept likewise. -/
theorem sharedClient_alone (sr : Surroundings) (s : Session) :
    ∃ t : SharedClient.System Nat, SharedClient.Run ⟨{ outcome := s.shared }, fun _ => .fresh⟩ t ∧
      t.phase 0 = .ended ((sharedClient sr).perform s).1 ∧
      t.shared.outcome = ((sharedClient sr).perform s).2.shared ∧ t.shared.lock = .free := by
  rw [sharedClient, Act.perform_bind, Act.perform_get]
  dsimp only
  cases hshared : s.shared with
  | some made =>
      rw [perform_ofShared]
      have start : SharedClient.Run ⟨{ outcome := some made }, fun _ => .fresh⟩ _ := .refl
      have found := start.move 0 rfl (.findFirst rfl)
      exact ⟨_, found.move 0 rfl .giveBack, rfl, hshared.symm, rfl⟩
  | none =>
      obtain ⟨made, t, hmake, hkept⟩ := exists_perform_makeShared sr s
      rw [Act.perform_bind, hmake]
      dsimp only
      rw [perform_ofShared]
      have start : SharedClient.Run (K := Nat) ⟨{ outcome := none }, fun _ => .fresh⟩ _ :=
        .refl
      have checking := (start.move 0 rfl (.missFirst rfl)).move 0 rfl (.seize rfl)
      have keeping := (checking.move 0 rfl (.make rfl)).move 0 rfl (.made made)
      have leaving := keeping.move 0 rfl .keep
      exact ⟨_, leaving.move 0 rfl .leave, rfl, hkept.symm, rfl⟩

end Session

end DockerClient
