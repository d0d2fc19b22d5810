import DockerClient.Client.State
import DockerClient.Error.Basic
import DockerClient.Proofs.Interleaving

/-
**Calls on the handles of one client.**

Any number of calls run on the handles of a client at the same time.  Looks at what the handles
share are made by calls that hold its lock together, changes by one that holds it alone; a request
to the daemon is made without the lock for a ping, and while holding it alone for an account.

* `Handle.Op`, `Handle.Gain` — what a call is for, and what it gives;
* `Handle.Phase` — where a call stands, with `Handle.Phase.access`, how it holds the lock there,
  and `Handle.Phase.op?`, what it is still for;
* `Handle.Move` — **what a call can do at once**; the daemon gives any account or fails, and a call
  that waits can be dropped;
* `Handle.System`, `Handle.Reachable` — all calls, and the states that they can lead to;
* `Handle.Move.access_eq`, `Handle.Move.state_eq`, `Handle.Move.rank_lt` — what every move does:
  the lock grants what the phases say, only one who is alone changes the state, and no call goes on
  forever.
-/

set_option relaxedAutoImplicit false
set_option autoImplicit false

namespace DockerClient

/-! ### Closing in two strokes -/

namespace ClientState

variable {L I : Type}

/-- Takes the link away. -/
def unlink (s : ClientState L I) : ClientState L I := { s with link := none }

/-- Takes the account away. -/
def forget (s : ClientState L I) : ClientState L I := { s with info := none }

theorem claim_eq_unknown_iff {s : ClientState L I} {l : L} :
    s.claim = .unknown l ↔ s.link = some l ∧ s.info = none := by
  obtain ⟨link, info⟩ := s
  cases info <;> cases link <;> simp [claim]

theorem claim_eq_known_iff {s : ClientState L I} {i : I} :
    s.claim = .known i ↔ s.info = some i := by
  obtain ⟨link, info⟩ := s
  cases info <;> cases link <;> simp [claim]

theorem peek_eq_known_iff {s : ClientState L I} {i : I} :
    s.peek = .known i ↔ s.link ≠ none ∧ s.info = some i := by
  obtain ⟨link, info⟩ := s
  cases info <;> cases link <;> simp [peek]

theorem peek_eq_closed_iff {s : ClientState L I} : s.peek = .closed ↔ s.link = none := by
  obtain ⟨link, info⟩ := s
  cases info <;> cases link <;> simp [peek]

@[simp] theorem link_keep (s : ClientState L I) (i : I) : (s.keep i).link = s.link := rfl

@[simp] theorem info_keep (s : ClientState L I) (i : I) : (s.keep i).info = some i := rfl

@[simp] theorem link_unlink (s : ClientState L I) : s.unlink.link = none := rfl

@[simp] theorem info_unlink (s : ClientState L I) : s.unlink.info = s.info := rfl

@[simp] theorem link_forget (s : ClientState L I) : s.forget.link = s.link := rfl

@[simp] theorem info_forget (s : ClientState L I) : s.forget.info = none := rfl

end ClientState

namespace Handle

variable {L I : Type}

/-! ### Calls -/

/-- What can be asked of an open client. -/
inductive Query where
  | link
  | ping
  | info
deriving DecidableEq, Repr

/-- What a call on a handle is for. -/
inductive Op where
  | ask (query : Query)
  | close
deriving DecidableEq, Repr

/-- What a call gives that succeeds. -/
inductive Gain (L I : Type) where
  | nothing
  | link (link : L)
  | info (info : I)
deriving DecidableEq, Repr

/-- Where a call stands.  A call that asks enters the lock with others and looks.  A ping then goes
on with the link it was given; a call that found no account queues to be alone, claims the state
and fetches one.  A call that closes waits to be alone, then takes the link and the account away. -/
inductive Phase (L I : Type) where
  | fresh
  | entering (query : Query)
  | looking (query : Query)
  | linked (link : L)
  | pinging (link : L)
  | queueing
  | claiming
  | fetching (link : L)
  | closing
  | unlinking
  | forgetting
  | ended (op : Op) (result : Except Error (Gain L I))
  | dropped

namespace Phase

/-- How a call holds the lock. -/
def access : Phase L I → Access
  | looking _ => .together
  | claiming | fetching _ | unlinking | forgetting => .alone
  | _ => .out

/-- What a call is for that has begun and was not dropped. -/
def op? : Phase L I → Option Op
  | fresh | dropped => none
  | entering query | looking query => some (.ask query)
  | linked _ | pinging _ => some (.ask .ping)
  | queueing | claiming | fetching _ => some (.ask .info)
  | closing | unlinking | forgetting => some .close
  | ended op _ => some op

/-- How many moves a call has left at most. -/
def rank : Phase L I → Nat
  | fresh => 7
  | entering _ => 6
  | looking _ => 5
  | queueing => 4
  | claiming | linked _ | closing => 3
  | fetching _ | pinging _ | unlinking => 2
  | forgetting => 1
  | ended _ _ | dropped => 0

end Phase

/-! ### What a call can do -/

/-- What the handles of a client share, with the requests that were sent and the accounts that the
daemon gave. -/
structure Shared (L I : Type) where
  lock : Lock := .free
  state : ClientState L I
  sent : List Nat := []
  records : List I := []

/-- What a caller is told who wants the link. -/
def linkOf (s : ClientState L I) : Except Error (Gain L I) :=
  match s.link with
  | some link => .ok (.link link)
  | none => .error .closed

/-- **What a call can do at once.**  The lock lets in whoever it has room for, the daemon answers or
fails, and a call is dropped only where it waits. -/
inductive Move (c : Nat) : Shared L I → Phase L I → Shared L I → Phase L I → Prop
  | ask {x} (query : Query) : Move c x .fresh x (.entering query)
  | close {x} : Move c x .fresh x .closing
  -- looking, with others
  | enter {x query lock} (h : x.lock.admit? c = some lock) :
      Move c x (.entering query) { x with lock := lock } (.looking query)
  | giveLink {x} :
      Move c x (.looking .link) { x with lock := x.lock.leave c }
        (.ended (.ask .link) (linkOf x.state))
  | refusePing {x} (h : x.state.link = none) :
      Move c x (.looking .ping) { x with lock := x.lock.leave c }
        (.ended (.ask .ping) (.error .closed))
  | allowPing {x link} (h : x.state.link = some link) :
      Move c x (.looking .ping) { x with lock := x.lock.leave c } (.linked link)
  -- a ping, outside the lock
  | ping {x link} :
      Move c x (.linked link) { x with sent := c :: x.sent } (.pinging link)
  | pong {x link} : Move c x (.pinging link) x (.ended (.ask .ping) (.ok .nothing))
  | pingFails {x link} (fault : DaemonFault) :
      Move c x (.pinging link) x (.ended (.ask .ping) (.error (.daemon fault)))
  -- an account, first with others and then alone
  | peekClosed {x} (h : x.state.peek = .closed) :
      Move c x (.looking .info) { x with lock := x.lock.leave c }
        (.ended (.ask .info) (.error .closed))
  | peekKnown {x info} (h : x.state.peek = .known info) :
      Move c x (.looking .info) { x with lock := x.lock.leave c }
        (.ended (.ask .info) (.ok (.info info)))
  | peekUnknown {x link} (h : x.state.peek = .unknown link) :
      Move c x (.looking .info) { x with lock := x.lock.leave c } .queueing
  | seize {x lock} (h : x.lock.seize? c = some lock) :
      Move c x .queueing { x with lock := lock } .claiming
  | claimClosed {x} (h : x.state.claim = .closed) :
      Move c x .claiming { x with lock := x.lock.leave c } (.ended (.ask .info) (.error .closed))
  | claimKnown {x info} (h : x.state.claim = .known info) :
      Move c x .claiming { x with lock := x.lock.leave c } (.ended (.ask .info) (.ok (.info info)))
  | fetch {x link} (h : x.state.claim = .unknown link) :
      Move c x .claiming { x with sent := c :: x.sent } (.fetching link)
  | fetched {x link} (info : I) :
      Move c x (.fetching link)
        { x with
          lock := x.lock.leave c, state := x.state.keep info, records := x.records ++ [info] }
        (.ended (.ask .info) (.ok (.info info)))
  | fetchFails {x link} (fault : DaemonFault) :
      Move c x (.fetching link) { x with lock := x.lock.leave c }
        (.ended (.ask .info) (.error (.daemon fault)))
  -- closing, alone
  | seizeToClose {x lock} (h : x.lock.seize? c = some lock) :
      Move c x .closing { x with lock := lock } .unlinking
  | unlink {x} : Move c x .unlinking { x with state := x.state.unlink } .forgetting
  | forget {x} :
      Move c x .forgetting { x with lock := x.lock.leave c, state := x.state.forget }
        (.ended .close (.ok .nothing))
  -- dropped calls leave the lock if they hold it
  | dropWaiting {x p} (h : p = .queueing ∨ p = .closing ∨ ∃ query, p = .entering query) :
      Move c x p x .dropped
  | dropPinging {x link} : Move c x (.pinging link) x .dropped
  | dropFetching {x link} :
      Move c x (.fetching link) { x with lock := x.lock.leave c } .dropped

/-- All calls on the handles of a client. -/
abbrev System (L I : Type) := Crowd (Shared L I) (Phase L I)

/-- The moves of all calls, in any order. -/
abbrev Run : System L I → System L I → Prop := Crowd.Run Move

/-- A new client, before the first call. -/
def opened (link : L) : System L I := ⟨{ state := .opened link }, fun _ => .fresh⟩

/-- The states that the calls on a new client can lead to. -/
def Reachable (link : L) (s : System L I) : Prop := Run (opened link) s

/-! ### What every move does -/

namespace Move

variable {c : Nat} {x y : Shared L I} {p q : Phase L I}

/-- **The lock grants what the phases say**: if it does before a move, it does afterwards, and what
it grants to the other calls does not change. -/
theorem access_eq (h : Move c x p y q) (hx : x.lock.access c = p.access) :
    y.lock.access = Function.update x.lock.access c q.access := by
  have stay : Function.update x.lock.access c p.access = x.lock.access := by
    rw [← hx, Function.update_eq_self]
  have left (hp : p.access ≠ .out) :
      (x.lock.leave c).access = Function.update x.lock.access c .out :=
    Lock.access_leave (by rwa [hx])
  -- the moves that enter the lock, those that leave it where it is, and those that leave it
  cases h with
  | enter h => exact Lock.access_admit? h
  | seize h | seizeToClose h => exact Lock.access_seize? h
  | ask | close | ping | pong | pingFails | fetch | unlink | dropPinging => exact stay.symm
  | dropWaiting h => rcases h with rfl | rfl | ⟨query, rfl⟩ <;> exact stay.symm
  | giveLink | refusePing | allowPing | peekClosed | peekKnown | peekUnknown | claimClosed
  | claimKnown | fetched | fetchFails | forget | dropFetching => exact left (by simp [Phase.access])

/-- Only a call that is alone changes the state, or is given an account. -/
theorem state_eq (h : Move c x p y q) (hp : p.access ≠ .alone) :
    y.state = x.state ∧ y.records = x.records := by
  cases h <;> first | exact ⟨rfl, rfl⟩ | simp [Phase.access] at hp

/-- Nobody opens a closed client. -/
theorem link_eq_none (h : Move c x p y q) (hx : x.state.link = none) : y.state.link = none := by
  cases h <;> first | exact hx | rfl

/-- Requests are not forgotten, and only the call that moves sends one. -/
theorem mem_sent {d : Nat} (h : Move c x p y q) (hd : d ≠ c) : d ∈ y.sent ↔ d ∈ x.sent := by
  cases h <;> simp [hd]

/-- **No call goes on forever.** -/
theorem rank_lt (h : Move c x p y q) : q.rank < p.rank := by
  cases h with
  | dropWaiting h => rcases h with rfl | rfl | ⟨query, rfl⟩ <;> simp [Phase.rank]
  | _ => simp [Phase.rank]

end Move

end Handle

end DockerClient
