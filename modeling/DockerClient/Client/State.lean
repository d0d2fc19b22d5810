/-
**What the handles of a client share**: a link to the daemon until the client is closed, and the
account that the daemon gave of itself once it was asked for.

Every operation consists of steps, each of which sees and changes the state as a whole; what happens
between two steps of one handle is up to the others.

* `ClientState` — the shared state; a closed client has no link;
* `ClientState.peek`, `ClientState.claim`, `ClientState.keep` — asking for the account: first a
  look, then, alone with the state, another one, and the account that was fetched;
* `ClientState.close` — closes;
* `ClientState.IsClean` — **a closed client has no account**.
-/

set_option relaxedAutoImplicit false
set_option autoImplicit false

namespace DockerClient

/-- A link until the client is closed, and the daemon's account once it was asked for. -/
structure ClientState (L I : Type) where
  link : Option L
  info : Option I := none
deriving DecidableEq, Repr

namespace ClientState

variable {L I : Type}

/-- The state of a new client. -/
def opened (link : L) : ClientState L I := ⟨some link, none⟩

/-- Whether the client is closed. -/
def isClosed (s : ClientState L I) : Bool := s.link.isNone

/-- What a look at the state says to one who wants the account. -/
inductive Glance (L I : Type) where
  | closed
  | known (info : I)
  | unknown (link : L)
deriving DecidableEq, Repr

/-- The first look: a closed client gives nothing. -/
def peek (s : ClientState L I) : Glance L I :=
  match s.link, s.info with
  | none, _ => .closed
  | some _, some info => .known info
  | some link, none => .unknown link

/-- The look of one who is alone with the state: another may have fetched the account. -/
def claim (s : ClientState L I) : Glance L I :=
  match s.info, s.link with
  | some info, _ => .known info
  | none, none => .closed
  | none, some link => .unknown link

/-- Keeps an account that was fetched. -/
def keep (s : ClientState L I) (info : I) : ClientState L I := { s with info := some info }

/-- Closes the client. -/
def close (_ : ClientState L I) : ClientState L I := ⟨none, none⟩

/-! ### Laws -/

/-- A closed client has no account. -/
def IsClean (s : ClientState L I) : Prop := s.link = none → s.info = none

theorem isClean_opened (link : L) : (opened link : ClientState L I).IsClean := fun h => by
  simp [opened] at h

end ClientState

end DockerClient
