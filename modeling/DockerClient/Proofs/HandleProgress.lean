import DockerClient.Proofs.HandleInvariant

/-
**Calls on one client come to their end.**

A call that holds the lock can always go on until it leaves it, whatever the others do; so the lock
can be emptied, and then a call that waits gets it.  As no call goes on forever, every call that was
not dropped can be brought to its end from every state that can be reached.

* `Handle.Move.of_holding` — a call that holds the lock has a move that leaves the lock, or holds
  on to it;
* `Handle.Move.of_free` — a call that does not hold a free lock has ended or has a move;
* `Handle.vacate`, `Handle.drain` — a call leaves the lock, and then all do;
* `Handle.finish` — **every call can be brought to its end**.
-/

set_option relaxedAutoImplicit false
set_option autoImplicit false

namespace DockerClient

/-! ### How many hold a lock -/

namespace Lock

/-- How many hold the lock. -/
def size : Lock → Nat
  | .shared holders => holders.length
  | .exclusive _ => 1

/-- A lock that is not free is held by somebody. -/
theorem exists_holder {l : Lock} (h : l ≠ free) : ∃ c, l.access c ≠ .out := by
  cases l with
  | shared holders =>
      cases holders with
      | nil => exact absurd rfl h
      | cons c holders => exact ⟨c, by simp [access]⟩
  | exclusive c => exact ⟨c, by simp [access]⟩

/-- Fewer hold a lock that one of them has left. -/
theorem size_leave_lt {l : Lock} {c : Nat} (h : l.access c ≠ .out) : (l.leave c).size < l.size := by
  cases l with
  | shared holders =>
      have hc : c ∈ holders := by
        by_contra hc
        simp [access, hc] at h
      exact List.length_filter_lt_length_iff_exists.mpr ⟨c, hc, by simp⟩
  | exclusive holder => exact Nat.zero_lt_one

end Lock

namespace Handle

variable {L I : Type}

/-! ### Moves that are always there -/

namespace Move

variable {c : Nat} {x : Shared L I} {p : Phase L I}

/-- **A call that holds the lock has a move**, after which it has left the lock or still holds it,
and is for what it was for. -/
theorem of_holding (hp : p.access ≠ .out) :
    ∃ y q, Move c x p y q ∧ q.op? = p.op? ∧
      (y.lock = x.lock.leave c ∨ (y.lock = x.lock ∧ q.access ≠ .out)) := by
  cases p with
  | looking query =>
      cases query with
      | link => exact ⟨_, _, .giveLink, rfl, .inl rfl⟩
      | ping =>
          cases h : x.state.link with
          | none => exact ⟨_, _, .refusePing h, rfl, .inl rfl⟩
          | some link => exact ⟨_, _, .allowPing h, rfl, .inl rfl⟩
      | info =>
          cases h : x.state.peek with
          | closed => exact ⟨_, _, .peekClosed h, rfl, .inl rfl⟩
          | known info => exact ⟨_, _, .peekKnown h, rfl, .inl rfl⟩
          | unknown link => exact ⟨_, _, .peekUnknown h, rfl, .inl rfl⟩
  | claiming =>
      cases h : x.state.claim with
      | closed => exact ⟨_, _, .claimClosed h, rfl, .inl rfl⟩
      | known info => exact ⟨_, _, .claimKnown h, rfl, .inl rfl⟩
      | unknown link => exact ⟨_, _, .fetch h, rfl, .inr ⟨rfl, by simp [Phase.access]⟩⟩
  | fetching link => exact ⟨_, _, .fetchFails (.interrupted ""), rfl, .inl rfl⟩
  | unlinking => exact ⟨_, _, .unlink, rfl, .inr ⟨rfl, by simp [Phase.access]⟩⟩
  | forgetting => exact ⟨_, _, .forget, rfl, .inl rfl⟩
  | fresh | entering _ | linked _ | pinging _ | queueing | closing | ended _ _ | dropped =>
      exact absurd rfl hp

/-- **A call that waits has a move once the lock is free.** -/
theorem of_free (hfree : x.lock = .free) (hp : p.access = .out) {op : Op} (hop : p.op? = some op) :
    (∃ result, p = .ended op result) ∨ ∃ y q, Move c x p y q ∧ q.op? = some op := by
  have hseize : x.lock.seize? c = some (.exclusive c) :=
    Lock.seize?_eq_some_iff.mpr ⟨hfree, rfl⟩
  cases p with
  | ended _ result => exact .inl ⟨result, by rw [Option.some.inj hop]⟩
  | entering query =>
      have hadmit : x.lock.admit? c = some (.shared [c]) := by rw [hfree]; rfl
      exact .inr ⟨_, _, .enter hadmit, hop⟩
  | linked link => exact .inr ⟨_, _, .ping, hop⟩
  | pinging link => exact .inr ⟨_, _, .pong, hop⟩
  | queueing => exact .inr ⟨_, _, .seize hseize, hop⟩
  | closing => exact .inr ⟨_, _, .seizeToClose hseize, hop⟩
  | fresh | dropped => cases hop
  | looking _ | claiming | fetching _ | unlinking | forgetting => cases hp

end Move

/-! ### Runs to the end -/

/-- Every call that is for something in the one state is for it in the other. -/
def SameOps (s t : System L I) : Prop :=
  ∀ d op, (s.phase d).op? = some op → (t.phase d).op? = some op

theorem sameOps_put {s : System L I} {c : Nat} {y : Shared L I} {q : Phase L I}
    (h : q.op? = (s.phase c).op?) : SameOps s (s.put c y q) := by
  intro d op hd
  by_cases hdc : d = c
  · subst hdc
    rw [Crowd.put_phase_self, h, hd]
  · rw [Crowd.put_phase_of_ne s hdc, hd]

/-- No run brings a call back. -/
theorem rank_le_of_run {s t : System L I} (h : Run s t) (c : Nat) :
    (t.phase c).rank ≤ (s.phase c).rank := by
  induction h with
  | refl => exact Nat.le_refl _
  | @tail u _ _ hstep ih =>
      cases hstep with
      | @of d y q hmove =>
          by_cases hdc : d = c
          · subst hdc
            rw [Crowd.put_phase_self]
            exact Nat.le_trans (Nat.le_of_lt hmove.rank_lt) ih
          · rwa [Crowd.put_phase_of_ne u (Ne.symm hdc)]

/-- **A call that holds the lock can go on until it leaves it.** -/
theorem vacate (c : Nat) : ∀ (n : Nat) (s : System L I), (s.phase c).rank = n →
    (s.phase c).access ≠ .out →
    ∃ t, Run s t ∧ t.shared.lock = s.shared.lock.leave c ∧ SameOps s t := by
  intro n
  induction n using Nat.strongRecOn with
  | _ n ih =>
      intro s hrank hc
      obtain ⟨y, q, hmove, hop, hlock⟩ := Move.of_holding (c := c) (x := s.shared) hc
      have hrun : Run s (s.put c y q) := .single (.of hmove)
      -- the call has left the lock, or still holds it and has fewer moves left
      rcases hlock with hleft | ⟨hsame, hq⟩
      · exact ⟨_, hrun, hleft, sameOps_put hop⟩
      · have hlt : ((s.put c y q).phase c).rank < n := by
          rw [Crowd.put_phase_self, ← hrank]
          exact hmove.rank_lt
        obtain ⟨t, ht, hleft, hsameOps⟩ := ih _ hlt _ rfl (by rwa [Crowd.put_phase_self])
        refine ⟨t, hrun.trans ht, ?_, fun d op hd => hsameOps d op (sameOps_put hop d op hd)⟩
        rw [hleft, Crowd.put_shared, hsame]

/-- **All that hold the lock can go on until it is free.** -/
theorem drain : ∀ (n : Nat) (s : System L I), s.shared.lock.size = n → Sound s →
    ∃ t, Run s t ∧ t.shared.lock = .free ∧ SameOps s t := by
  intro n
  induction n using Nat.strongRecOn with
  | _ n ih =>
      intro s hsize hs
      by_cases hfree : s.shared.lock = .free
      · exact ⟨s, .refl, hfree, fun _ _ h => h⟩
      · -- one that holds the lock leaves it, and fewer are left that hold it
        obtain ⟨c, hc⟩ := Lock.exists_holder hfree
        have hphase : (s.phase c).access ≠ .out := by rwa [← (hs.2 c).1]
        obtain ⟨t, hst, hleft, hops⟩ := vacate c _ s rfl hphase
        have hlt : t.shared.lock.size < n := by
          rw [hleft, ← hsize]
          exact Lock.size_leave_lt hc
        obtain ⟨u, htu, hu, hops'⟩ := ih _ hlt t rfl (sound_of_run hs hst)
        exact ⟨u, hst.trans htu, hu, fun d op hd => hops' d op (hops d op hd)⟩

/-- A call that has begun and was not dropped can be brought to its end, by the number of moves it
has left. -/
theorem finish_of_rank (c : Nat) (op : Op) : ∀ (n : Nat) (s : System L I),
    (s.phase c).rank = n → Sound s → (s.phase c).op? = some op →
    ∃ t result, Run s t ∧ t.phase c = .ended op result := by
  intro n
  induction n using Nat.strongRecOn with
  | _ n ih =>
      intro s hrank hs hop
      -- first everybody leaves the lock, then the call makes a move
      obtain ⟨t, hst, hfree, hops⟩ := drain _ s rfl hs
      have ht : Sound t := sound_of_run hs hst
      have hout : (t.phase c).access = .out := by rw [← (ht.2 c).1, hfree, Lock.access_free]
      rcases Move.of_free (c := c) hfree hout (hops c op hop) with
        ⟨result, hended⟩ | ⟨y, q, hmove, hq⟩
      · exact ⟨t, result, hst, hended⟩
      · have hrun : Run s (t.put c y q) := hst.tail (.of hmove)
        have hlt : ((t.put c y q).phase c).rank < n := by
          have hle := rank_le_of_run hst c
          have hmoved := hmove.rank_lt
          rw [Crowd.put_phase_self]
          omega
        obtain ⟨u, result, hu, hended⟩ :=
          ih _ hlt _ rfl (sound_of_run hs hrun) (by rwa [Crowd.put_phase_self])
        exact ⟨u, result, hrun.trans hu, hended⟩

/-- **Every call that has begun and was not dropped can be brought to its end.** -/
theorem finish {s : System L I} (hs : Sound s) {c : Nat} {op : Op}
    (h : (s.phase c).op? = some op) : ∃ t result, Run s t ∧ t.phase c = .ended op result :=
  finish_of_rank c op _ s rfl hs h

end Handle

end DockerClient
