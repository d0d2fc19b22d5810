import DockerClient.Proofs.HandleProgress

/-
**The handles of one client are safe to share.**

Whatever calls run on the handles of a client, in whatever order their moves come, and whether the
daemon answers, fails or is not waited for: a closed client is closed for good and keeps no account,
there is one account at most, and who closes a client always succeeds.

* `Handle.unchanged_of_failure` — a request for an account that fails or is dropped changes nothing;
* `Handle.Safe` — what is promised in a state, and in all that follow it;
* `Handle.safe_of_reachable` — **the promises hold in every state that can be reached**.
-/

set_option relaxedAutoImplicit false
set_option autoImplicit false

namespace DockerClient

namespace Handle

variable {L I : Type}

/-- A call that waited for an account, and ends without one. -/
def Phase.Failed (p : Phase L I) : Prop :=
  p = .dropped ∨ ∃ e, p = .ended (.ask .info) (.error e)

/-- **A request for an account that fails, or is dropped, changes nothing**: the state is the one of
the second look, and the lock is free again. -/
theorem unchanged_of_failure {s t u : System L I} (hs : Sound s) {c : Nat} {link : L}
    (hc : s.phase c = .claiming) (hst : Run s t) (ht : t.phase c = .fetching link)
    (hstep : Crowd.Step Move t u) (hu : (u.phase c).Failed) :
    u.shared.state = s.shared.state ∧ u.shared.records = s.shared.records ∧
      u.shared.lock = .free := by
  obtain ⟨hstate, hrecords⟩ := undisturbed_of_run hs hst (.inl hc) (.inr ⟨link, ht⟩)
  have hlock : t.shared.lock = .exclusive c := by
    rw [← Lock.access_eq_alone_iff, ((sound_of_run hs hst).2 c).1, ht]
    rfl
  cases hstep with
  | @of d y q hmove =>
      by_cases hdc : d = c
      · subst hdc
        rw [Crowd.put_phase_self] at hu
        rw [ht] at hmove
        rw [Crowd.put_shared, ← hstate, ← hrecords]
        cases hmove with
        | fetchFails | dropFetching =>
            refine ⟨rfl, rfl, ?_⟩
            simp only [hlock]
            rfl
        | fetched => simp [Phase.Failed] at hu
        | dropWaiting h => simp at h
      · rw [Crowd.put_phase_of_ne t (Ne.symm hdc), ht] at hu
        simp [Phase.Failed] at hu

/-- What is promised to those who share a client, in one state and in all that follow it.  While
nobody holds the lock alone, a closed client has no account; once closed it is never open again, and
whoever then begins to ask is told so and sends nothing.
The daemon gives one account at most, and this is the one that calls give.  Closing succeeds, and
every call that was not dropped can be brought to its end. -/
structure Safe (s : System L I) : Prop where
  closed_clean : (∀ writer, s.shared.lock ≠ .exclusive writer) →
    s.shared.state.link = none → s.shared.state.info = none
  closed_forever : ∀ closer result, s.phase closer = .ended .close result →
    ∀ t, Run s t → t.shared.state.link = none
  closed_refuses : ∀ closer result, s.phase closer = .ended .close result →
    ∀ c, s.phase c = .fresh → ∀ t, Run s t → c ∉ t.shared.sent ∧
      ∀ query answer, t.phase c = .ended (.ask query) answer → answer = .error .closed
  one_account : s.shared.records.length ≤ 1
  same_account : ∀ c gain, s.phase c = .ended (.ask .info) (.ok gain) →
    ∃ info, gain = .info info ∧ s.shared.records = [info]
  /-- A request for an account that fails or is dropped leaves the state as it was when the call
  was alone with it and had not yet sent the request. -/
  failure_unchanged : ∀ c, s.phase c = .claiming → ∀ t u link, Run s t →
    t.phase c = .fetching link → Crowd.Step Move t u → (u.phase c).Failed →
    u.shared.state = s.shared.state ∧ u.shared.records = s.shared.records ∧ u.shared.lock = .free
  close_succeeds : ∀ c result, s.phase c = .ended .close result → result = .ok .nothing
  finishes : ∀ c op, (s.phase c).op? = some op → ∃ t result, Run s t ∧ t.phase c = .ended op result

/-- **The handles of a client are safe to share**: in every state that any number of calls on them
can reach. -/
theorem safe_of_reachable {link : L} {s : System L I} (h : Reachable link s) : Safe s := by
  have hs : Sound s := sound_of_reachable h
  have closed (closer : Nat) (result : Except Error (Gain L I))
      (hended : s.phase closer = .ended .close result) :
      s.shared.state.link = none ∧ result = .ok .nothing := by
    have hrely := (hs.2 closer).2
    rwa [hended] at hrely
  refine ⟨hs.1.clean, ?_, ?_, hs.1.atMostOne, ?_, ?_, ?_, ?_⟩
  · intro closer result hended t hst
    exact closed_of_run (closed closer result hended).1 hst
  · intro closer result hended c hc t hst
    have hsent : c ∉ s.shared.sent := by
      have hrely := (hs.2 c).2
      rwa [hc] at hrely
    obtain ⟨hmem, hrefused⟩ := refused_of_run (closed closer result hended).1 hst c hc hsent
    refine ⟨hmem, fun query answer hanswer => ?_⟩
    rwa [hanswer] at hrefused
  · intro c gain hended
    have hrely := (hs.2 c).2
    rwa [hended] at hrely
  · intro c hc t u link hst ht hstep hu
    exact unchanged_of_failure hs hc hst ht hstep hu
  · intro c result hended
    exact (closed c result hended).2
  · intro c op hop
    exact finish hs hop

/-- A client that gave an account and was closed, while another call waits to close it and a third
has not begun. -/
theorem safe_after_close :
    ∃ s : System Nat Nat, Reachable 5 s ∧ s.phase 0 = .ended (.ask .info) (.ok (.info 7)) ∧
      s.phase 1 = .ended .close (.ok .nothing) ∧ s.phase 2 = .closing ∧ s.phase 3 = .fresh ∧
      Safe s := by
  have start : Run (opened 5 : System Nat Nat) (opened 5) := .refl
  have looking := (start.move 0 rfl (.ask .info)).move 0 rfl (.enter rfl)
  have claiming := (looking.move 0 rfl (.peekUnknown rfl)).move 0 rfl (.seize rfl)
  -- the third call begins to close the client, but has to wait for the account
  have waiting := (claiming.move 0 rfl (.fetch rfl)).move 2 rfl .close
  have closing := (waiting.move 0 rfl (.fetched 7)).move 1 rfl .close
  have unlinked := (closing.move 1 rfl (.seizeToClose rfl)).move 1 rfl .unlink
  have run := unlinked.move 1 rfl .forget
  exact ⟨_, run, rfl, rfl, rfl, rfl, safe_of_reachable run⟩

end Handle

end DockerClient
