import DockerClient.Proofs.HandleCalls

/-
**What holds between the moves of calls on one client.**

Every call relies on something while it stands where it stands, and what is shared makes sense by
itself.  A call that is alone relies on what it saw; the other calls can not touch it, because they
do not hold the lock.  What a call relies on that is not alone is never taken back by anyone.

* `Handle.Shared.Sound`, `Handle.Phase.Rely` — what makes sense of what is shared, and what a call
  relies on;
* `Handle.Move.sound`, `Handle.Move.rely`, `Handle.Move.rely_other` — a move keeps them;
* `Handle.Sound`, `Handle.sound_of_reachable` — **they hold in every state that can be reached**;
* `Handle.closed_of_run` — a client that was closed stays closed;
* `Handle.refused_of_run` — a call that begins on a closed client is refused, and sends nothing;
* `Handle.undisturbed_of_run` — nobody changes the state under a call that looks again or waits for
  an account.
-/

set_option relaxedAutoImplicit false
set_option autoImplicit false

namespace DockerClient

theorem Lock.ne_exclusive_of_access {l : Lock} {c : Nat} (h : l.access c = .together) (w : Nat) :
    l ≠ .exclusive w := by
  rintro rfl
  by_cases hc : c = w <;> simp [Lock.access, hc] at h

namespace Handle

variable {L I : Type}

/-! ### The invariant -/

/-- What is shared makes sense: a closed client has no account while nobody is changing it, and an
account that is kept is the only one the daemon gave. -/
structure Shared.Sound (x : Shared L I) : Prop where
  clean : (∀ w, x.lock ≠ .exclusive w) → x.state.IsClean
  known : ∀ info, x.state.info = some info → x.records = [info]
  unknown : x.state.link ≠ none → x.state.info = none → x.records = []
  atMostOne : x.records.length ≤ 1

/-- What a call relies on. -/
def Phase.Rely (c : Nat) (x : Shared L I) : Phase L I → Prop
  | .fresh => c ∉ x.sent
  | .claiming => x.state.IsClean
  | .fetching link => x.state.link = some link ∧ x.state.info = none
  | .forgetting => x.state.link = none
  | .ended .close result => x.state.link = none ∧ result = .ok .nothing
  | .ended (.ask .info) (.ok gain) => ∃ info, gain = .info info ∧ x.records = [info]
  | _ => True

/-- The invariant of all calls: what is shared makes sense, the lock grants what the phases say,
and every call has what it relies on. -/
def Sound (s : System L I) : Prop :=
  Crowd.Holds Shared.Sound (fun c x p => x.lock.access c = p.access ∧ p.Rely c x) s

namespace Shared.Sound

variable {x y : Shared L I}

/-- What is shared still makes sense when the lock is left in a clean state. -/
theorem of_state_eq (hx : x.Sound) (hclean : y.state.IsClean) (hstate : y.state = x.state)
    (hrecords : y.records = x.records) : y.Sound := by
  refine ⟨fun _ => hclean, ?_, ?_, ?_⟩
  · rw [hstate, hrecords]
    exact hx.known
  · rw [hstate, hrecords]
    exact hx.unknown
  · rw [hrecords]
    exact hx.atMostOne

theorem clean_of_access (hx : x.Sound) {c : Nat} (h : x.lock.access c = .together) :
    x.state.IsClean :=
  hx.clean (Lock.ne_exclusive_of_access h)

theorem clean_of_free (hx : x.Sound) (h : x.lock = .free) : x.state.IsClean :=
  hx.clean fun w hw => by simp [h, Lock.free] at hw

theorem clean_of_admit? (hx : x.Sound) {c : Nat} {lock : Lock} (h : x.lock.admit? c = some lock) :
    x.state.IsClean :=
  hx.clean fun w hw => by simp [hw, Lock.admit?] at h

end Shared.Sound

/-- An open client is clean, whatever it knows. -/
theorem isClean_of_link {s : ClientState L I} {link : L} (h : s.link = some link) : s.IsClean :=
  fun hnone => by simp [h] at hnone

/-! ### One move -/

namespace Move

variable {c d : Nat} {x y : Shared L I} {p q r : Phase L I}

/-- **A move keeps the sense of what is shared.** -/
theorem sound (h : Move c x p y q) (hx : x.Sound) (hc : x.lock.access c = p.access)
    (hp : p.Rely c x) : y.Sound := by
  cases h with
  | ask | close | ping | pong | pingFails | dropWaiting | dropPinging | fetch =>
      exact ⟨hx.clean, hx.known, hx.unknown, hx.atMostOne⟩
  | enter h => exact hx.of_state_eq (hx.clean_of_admit? h) rfl rfl
  | seize h | seizeToClose h =>
      exact hx.of_state_eq (hx.clean_of_free (Lock.seize?_eq_some_iff.mp h).1) rfl rfl
  | giveLink | refusePing | allowPing | peekClosed | peekKnown | peekUnknown =>
      exact hx.of_state_eq (hx.clean_of_access hc) rfl rfl
  | claimClosed | claimKnown => exact hx.of_state_eq hp rfl rfl
  | fetchFails | dropFetching => exact hx.of_state_eq (isClean_of_link hp.1) rfl rfl
  | @fetched link info =>
      have hnone : x.records = [] := hx.unknown (by simp [hp.1]) hp.2
      refine ⟨fun _ => isClean_of_link (s := x.state.keep info) hp.1, ?_, ?_, ?_⟩
      · intro i hi
        simp only [ClientState.info_keep, Option.some.injEq] at hi
        simp [hnone, hi]
      · intro _ hi
        simp at hi
      · simp [hnone]
  | unlink =>
      -- the state is not clean here, but the lock is held alone
      refine ⟨fun hlock => absurd (Lock.access_eq_alone_iff.mp hc) (hlock c), hx.known, ?_,
        hx.atMostOne⟩
      intro hlink
      simp at hlink
  | forget =>
      refine ⟨fun _ _ => rfl, ?_, ?_, hx.atMostOne⟩
      · intro i hi
        simp at hi
      · intro hlink
        exact absurd hp hlink

/-- The daemon gives no second account. -/
theorem records_eq (h : Move c x p y q) (hx : x.Sound) (hp : p.Rely c x) (hne : x.records ≠ []) :
    y.records = x.records := by
  cases h with
  | fetched => exact absurd (hx.unknown (by simp [hp.1]) hp.2) hne
  | _ => rfl

/-- **A move gives the call what it then relies on.** -/
theorem rely (h : Move c x p y q) (hx : x.Sound) (hp : p.Rely c x) : q.Rely c y := by
  cases h with
  | seize h => exact hx.clean_of_free (Lock.seize?_eq_some_iff.mp h).1
  | fetch h => exact ClientState.claim_eq_unknown_iff.mp h
  | @peekKnown info h => exact ⟨info, rfl, hx.known info (ClientState.peek_eq_known_iff.mp h).2⟩
  | @claimKnown info h => exact ⟨info, rfl, hx.known info (ClientState.claim_eq_known_iff.mp h)⟩
  | @fetched link info => exact ⟨info, rfl, by simp [hx.unknown (by simp [hp.1]) hp.2]⟩
  | unlink => exact rfl
  | forget => exact ⟨hp, rfl⟩
  | _ => trivial

/-- **A move leaves the other calls what they rely on.** -/
theorem rely_other (h : Move c x p y q) (hne : d ≠ c) (hx : x.Sound)
    (hc : x.lock.access c = p.access) (hp : p.Rely c x) (hd : x.lock.access d = r.access)
    (hr : r.Rely d x) : r.Rely d y := by
  -- while the other call is alone, the one that moves does not hold the lock
  have frame (halone : r.access = .alone) : y.state = x.state := by
    refine (h.state_eq ?_).1
    rw [← hc, Lock.access_of_alone (hd.trans halone) hne.symm]
    simp
  cases r with
  | fresh => exact fun hmem => hr ((h.mem_sent hne).mp hmem)
  | claiming =>
      have hstate := frame rfl
      simpa only [Phase.Rely, hstate] using hr
  | fetching link =>
      have hstate := frame rfl
      simpa only [Phase.Rely, hstate] using hr
  | forgetting => exact h.link_eq_none hr
  | ended op result =>
      match op, result with
      | .close, _ => exact ⟨h.link_eq_none hr.1, hr.2⟩
      | .ask .info, .ok _ =>
          obtain ⟨info, hgain, hrecords⟩ := hr
          exact ⟨info, hgain, (h.records_eq hx hp (by simp [hrecords])).trans hrecords⟩
      | .ask .info, .error _ | .ask .link, _ | .ask .ping, _ => trivial
  | entering _ | looking _ | linked _ | pinging _ | queueing | closing | unlinking | dropped =>
      trivial

end Move

/-! ### Runs -/

theorem sound_opened (link : L) : Sound (opened link : System L I) := by
  refine ⟨⟨fun _ => ClientState.isClean_opened link, ?_, fun _ _ => rfl, Nat.zero_le 1⟩,
    fun c => ⟨rfl, by simp [opened, Phase.Rely]⟩⟩
  intro info hinfo
  simp [opened, ClientState.opened] at hinfo

/-- **The invariant is kept by every run.** -/
theorem sound_of_run {s t : System L I} (hs : Sound s) (h : Run s t) : Sound t := by
  refine Crowd.holds_run ?_ ?_ hs h
  · intro c x p y q hx hc hmove
    refine ⟨hmove.sound hx hc.1 hc.2, ?_, hmove.rely hx hc.2⟩
    rw [hmove.access_eq hc.1, Function.update_self]
  · intro c d x p y q r hne hx hc hd hmove
    refine ⟨?_, hmove.rely_other hne hx hc.1 hc.2 hd.1 hd.2⟩
    rw [hmove.access_eq hc.1, Function.update_of_ne hne, hd.1]

/-- **The invariant holds in every state that can be reached.** -/
theorem sound_of_reachable {link : L} {s : System L I} (h : Reachable link s) : Sound s :=
  sound_of_run (sound_opened link) h

/-- A client that was closed stays closed. -/
theorem closed_of_run {s t : System L I} (hs : s.shared.state.link = none) (h : Run s t) :
    t.shared.state.link = none := by
  induction h with
  | refl => exact hs
  | tail _ hstep ih =>
      cases hstep with
      | of hmove => exact hmove.link_eq_none ih

/-! ### Calls on a closed client -/

/-- Where a call can stand that began on a closed client. -/
def Phase.Refused : Phase L I → Prop
  | .linked _ | .pinging _ | .queueing | .claiming | .fetching _ => False
  | .ended (.ask _) result => result = .error .closed
  | _ => True

/-- A move on a closed client that was refused so far sends nothing and is refused. -/
theorem Move.refused {c : Nat} {x y : Shared L I} {p q : Phase L I} (h : Move c x p y q)
    (hx : x.state.link = none) (hp : p.Refused) : y.sent = x.sent ∧ q.Refused := by
  cases h with
  | giveLink => exact ⟨rfl, by simp [linkOf, hx, Phase.Refused]⟩
  | allowPing h => simp [hx] at h
  | peekKnown h => exact absurd hx (ClientState.peek_eq_known_iff.mp h).1
  | peekUnknown h => simp [ClientState.peek_eq_closed_iff.mpr hx] at h
  | refusePing | peekClosed => exact ⟨rfl, rfl⟩
  | ask | close | enter | seizeToClose | unlink | forget | dropWaiting => exact ⟨rfl, trivial⟩
  | ping | pong | pingFails | seize | claimClosed | claimKnown | fetch | fetched | fetchFails
  | dropPinging | dropFetching => exact hp.elim

/-- **A call that begins on a closed client is refused**, and sends nothing. -/
theorem refused_of_run {s t : System L I} (hs : s.shared.state.link = none)
    (h : Run s t) (c : Nat) (hc : s.phase c = .fresh) (hsent : c ∉ s.shared.sent) :
    c ∉ t.shared.sent ∧ (t.phase c).Refused := by
  have holds : Crowd.Holds (fun x => x.state.link = none)
      (fun d x p => d = c → c ∉ x.sent ∧ p.Refused) t := by
    refine Crowd.holds_run ?_ ?_ ⟨hs, ?_⟩ h
    · intro d x p y q hx hd hmove
      refine ⟨hmove.link_eq_none hx, fun he => ?_⟩
      obtain ⟨hmem, hp⟩ := hd he
      obtain ⟨heq, hq⟩ := hmove.refused hx hp
      exact ⟨by rwa [heq], hq⟩
    · intro d e x p y q r hne _ _ he hmove hec
      obtain ⟨hmem, hr⟩ := he hec
      subst hec
      exact ⟨fun hm => hmem ((hmove.mem_sent hne).mp hm), hr⟩
    · rintro d rfl
      exact ⟨hsent, by rw [hc]; trivial⟩
  exact holds.2 c rfl

/-! ### Calls that are alone with the state -/

/-- A call that looks again, or that waits for an account. -/
def Phase.Asks (p : Phase L I) : Prop := p = .claiming ∨ ∃ link, p = .fetching link

/-- A call that has ended, by itself or because it was dropped. -/
def Phase.Ended (p : Phase L I) : Prop := p = .dropped ∨ ∃ op result, p = .ended op result

theorem Phase.Asks.access {p : Phase L I} (h : p.Asks) : p.access = .alone := by
  rcases h with rfl | ⟨link, rfl⟩ <;> rfl

theorem Phase.Asks.not_ended {p : Phase L I} (h : p.Asks) : ¬p.Ended := by
  rintro (rfl | ⟨op, result, rfl⟩) <;> simp [Phase.Asks] at h

/-- A call that has ended makes no move. -/
theorem Move.not_ended {c : Nat} {x y : Shared L I} {p q : Phase L I} (h : Move c x p y q) :
    ¬p.Ended := by
  intro hp
  have hrank : p.rank = 0 := by rcases hp with rfl | ⟨op, result, rfl⟩ <;> rfl
  have hlt := h.rank_lt
  omega

/-- A call that asks for an account goes on asking without a change of the state, or ends. -/
theorem Move.asks {c : Nat} {x y : Shared L I} {p q : Phase L I} (h : Move c x p y q)
    (hp : p.Asks) : (q.Asks ∧ y.state = x.state ∧ y.records = x.records) ∨ q.Ended := by
  rcases hp with rfl | ⟨link, rfl⟩
  · cases h with
    | fetch => exact .inl ⟨.inr ⟨_, rfl⟩, rfl, rfl⟩
    | claimClosed | claimKnown => exact .inr (.inr ⟨_, _, rfl⟩)
    | dropWaiting h => simp at h
  · cases h with
    | fetched | fetchFails => exact .inr (.inr ⟨_, _, rfl⟩)
    | dropFetching => exact .inr (.inl rfl)
    | dropWaiting h => simp at h

/-- **Nobody changes the state under a call that asks for an account.** -/
theorem undisturbed_of_run {s t : System L I} (hs : Sound s) (h : Run s t) {c : Nat}
    (hc : (s.phase c).Asks) (hct : (t.phase c).Asks) :
    t.shared.state = s.shared.state ∧ t.shared.records = s.shared.records := by
  have holds : ((t.phase c).Asks ∧ t.shared.state = s.shared.state ∧
      t.shared.records = s.shared.records) ∨ (t.phase c).Ended := by
    clear hct
    induction h with
    | refl => exact .inl ⟨hc, rfl, rfl⟩
    | @tail u _ hrun hstep ih =>
        have hu : Sound u := sound_of_run hs hrun
        cases hstep with
        | @of d y q hmove =>
            by_cases hdc : d = c
            · subst hdc
              rw [Crowd.put_phase_self, Crowd.put_shared]
              obtain ⟨hask, h₁, h₂⟩ := ih.resolve_right hmove.not_ended
              exact (hmove.asks hask).imp_left
                fun ⟨hq, hstate, hrecords⟩ => ⟨hq, hstate.trans h₁, hrecords.trans h₂⟩
            · rw [Crowd.put_phase_of_ne u (Ne.symm hdc), Crowd.put_shared]
              refine ih.imp_left fun ⟨hask, h₁, h₂⟩ => ?_
              -- the lock is held alone by the call that asks, so not by the one that moves
              have hout : (u.phase d).access ≠ .alone := by
                rw [← (hu.2 d).1, Lock.access_of_alone ((hu.2 c).1.trans hask.access) hdc]
                simp
              obtain ⟨hstate, hrecords⟩ := hmove.state_eq hout
              exact ⟨hask, hstate.trans h₁, hrecords.trans h₂⟩
  exact (holds.resolve_right hct.not_ended).2

end Handle

end DockerClient
