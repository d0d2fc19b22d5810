import DockerClient.Error.Basic
import DockerClient.Proofs.Interleaving

/-
**Calls that want the shared client.**

Any number of callers want the client that is made once for all.  A call looks whether something
was kept; if not, it waits until it is alone, looks again and makes the client, or fails to.  What
came of it is kept, and handed out to all who ask.  A call that waits, for the lock or for the
client that it makes, can be dropped.

* `SharedClient.Phase` — where a call stands, with `SharedClient.Phase.access`, how it holds the
  lock there;
* `SharedClient.Shared`, `SharedClient.handOut` — what the calls share, and what callers get of it;
* `SharedClient.Move` — **what a call can do at once**; making a client gives any outcome;
* `SharedClient.System`, `SharedClient.Reachable` — all calls, and the states that they lead to;
* `SharedClient.Move.access_eq`, `SharedClient.Move.frame` — what every move does: the lock grants
  what the phases say, and only one who is alone changes what is shared.
-/

set_option relaxedAutoImplicit false
set_option autoImplicit false

namespace DockerClient.SharedClient

variable {K : Type}

/-! ### Calls -/

/-- Where a call stands.  A call that found nothing queues to be alone and checks again.  What came
of the client that it made it keeps, and leaves the lock when it hands it out; what it found without
the lock it returns. -/
inductive Phase (K : Type) where
  | fresh
  | queueing
  | checking
  | making
  | keeping (outcome : Except Error K)
  | leaving (outcome : Except Error K)
  | returning (outcome : Except Error K)
  | ended (result : Except Error K)
  | dropped

/-- How a call holds the lock. -/
def Phase.access : Phase K → Access
  | checking | making | keeping _ | leaving _ => .alone
  | _ => .out

/-! ### What a call can do -/

/-- What the calls share: the lock, and what came of the client that was made.  It is noted who
began to make a client, who was dropped while making one, and what was kept. -/
structure Shared (K : Type) where
  lock : Lock := .free
  outcome : Option (Except Error K) := none
  started : List Nat := []
  abandoned : List Nat := []
  kept : List (Except Error K) := []

/-- What is kept, with an outcome to keep if nothing is. -/
def Shared.getOrKeep (x : Shared K) (outcome : Except Error K) : Except Error K × Shared K :=
  match x.outcome with
  | some held => (held, x)
  | none => (outcome, { x with outcome := some outcome, kept := x.kept ++ [outcome] })

/-- What a caller gets: the client, or that it could not be made and why. -/
def handOut : Except Error K → Except Error K
  | .ok client => .ok client
  | .error e => .error (.init e)

/-- **What a call can do at once.**  Making a client ends in any outcome, and a call is dropped only
where it waits. -/
inductive Move (c : Nat) : Shared K → Phase K → Shared K → Phase K → Prop
  -- the first look, without the lock
  | findFirst {x outcome} (h : x.outcome = some outcome) : Move c x .fresh x (.returning outcome)
  | missFirst {x} (h : x.outcome = none) : Move c x .fresh x .queueing
  -- alone
  | seize {x lock} (h : x.lock.seize? c = some lock) :
      Move c x .queueing { x with lock := lock } .checking
  | findSecond {x outcome} (h : x.outcome = some outcome) :
      Move c x .checking x (.leaving outcome)
  | make {x} (h : x.outcome = none) :
      Move c x .checking { x with started := c :: x.started } .making
  | made {x} (outcome : Except Error K) : Move c x .making x (.keeping outcome)
  | keep {x outcome} :
      Move c x (.keeping outcome) (x.getOrKeep outcome).2 (.leaving (x.getOrKeep outcome).1)
  | leave {x outcome} :
      Move c x (.leaving outcome) { x with lock := x.lock.leave c } (.ended (handOut outcome))
  | giveBack {x outcome} : Move c x (.returning outcome) x (.ended (handOut outcome))
  -- dropped calls leave the lock if they hold it
  | dropQueueing {x} : Move c x .queueing x .dropped
  | dropChecking {x} : Move c x .checking { x with lock := x.lock.leave c } .dropped
  | dropMaking {x} :
      Move c x .making { x with lock := x.lock.leave c, abandoned := c :: x.abandoned } .dropped

/-- All calls that want the shared client. -/
abbrev System (K : Type) := Crowd (Shared K) (Phase K)

/-- The moves of all calls, in any order. -/
abbrev Run : System K → System K → Prop := Crowd.Run Move

/-- The state before the first call. -/
def untouched : System K := ⟨{}, fun _ => .fresh⟩

/-- The states that calls can lead to. -/
def Reachable (s : System K) : Prop := Run untouched s

/-! ### What every move does -/

theorem Shared.getOrKeep_of_none {x : Shared K} (h : x.outcome = none) (outcome : Except Error K) :
    x.getOrKeep outcome =
      (outcome, { x with outcome := some outcome, kept := x.kept ++ [outcome] }) := by
  simp only [getOrKeep, h]

theorem Shared.getOrKeep_of_some {x : Shared K} {held : Except Error K} (h : x.outcome = some held)
    (outcome : Except Error K) : x.getOrKeep outcome = (held, x) := by
  simp only [getOrKeep, h]

/-- Keeping something leaves the lock as it is. -/
@[simp] theorem Shared.lock_getOrKeep (x : Shared K) (outcome : Except Error K) :
    (x.getOrKeep outcome).2.lock = x.lock := by
  unfold getOrKeep
  split <;> rfl

namespace Move

variable {c : Nat} {x y : Shared K} {p q : Phase K}

/-- **The lock grants what the phases say**: if it does before a move, it does afterwards, and what
it grants to the other calls does not change. -/
theorem access_eq (h : Move c x p y q) (hx : x.lock.access c = p.access) :
    y.lock.access = Function.update x.lock.access c q.access := by
  have stay : Function.update x.lock.access c p.access = x.lock.access := by
    rw [← hx, Function.update_eq_self]
  have left (hp : p.access = .alone) :
      (x.lock.leave c).access = Function.update x.lock.access c .out :=
    Lock.access_leave (by simp [hx, hp])
  cases h with
  | seize h => exact Lock.access_seize? h
  | findFirst | missFirst | findSecond | make | made | giveBack | dropQueueing => exact stay.symm
  | keep =>
      rw [Shared.lock_getOrKeep]
      exact stay.symm
  | leave | dropChecking | dropMaking => exact left rfl

/-- Only a call that is alone changes what is shared beside the lock. -/
theorem frame (h : Move c x p y q) (hp : p.access ≠ .alone) : y = { x with lock := y.lock } := by
  cases h <;> first | rfl | simp [Phase.access] at hp

/-- **What is kept is never replaced**, and nobody makes a client once something is kept, except who
began before. -/
theorem outcome_eq (h : Move c x p y q) {held : Except Error K} (hx : x.outcome = some held) :
    y.outcome = some held ∧ y.kept = x.kept ∧ y.started = x.started := by
  cases h with
  | make h => simp [hx] at h
  | keep => simp [Shared.getOrKeep_of_some hx, hx]
  | _ => exact ⟨hx, rfl, rfl⟩

end Move

end DockerClient.SharedClient
