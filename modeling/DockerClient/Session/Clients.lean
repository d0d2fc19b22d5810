import DockerClient.Client.DaemonHost
import DockerClient.Session.State

/-
**Clients in a session.**

* `Session.build` — makes a client from options whose headers there is room for; nothing is left of
  one whose health check fails;
* `Session.create` — **makes a client from any options**, which can panic;
* `Session.sharedClient` — the client that is made once for all, or the error it failed with;
* `Session.upgrade` — a client that was not held;
* `Session.link`, `Session.call` — the link of an open client, and a call over it;
* `Session.ping`, `Session.info`, `Session.daemonHost`, `Session.close` — what handles do.
-/

set_option relaxedAutoImplicit false
set_option autoImplicit false

namespace DockerClient.Session

/-! ### Making clients -/

/-- The client that a plan leads to. -/
def cellOf (plan : ClientPlan) : ClientCell :=
  { endpoint := plan.endpoint, source := plan.source, headers := plan.headers, span := plan.span,
    state := .opened plan.link }

/-- Adds a client and gives it its number. -/
def addClient (cell : ClientCell) : Act Nat :=
  ExceptT.mk fun s => (.ok s.clients.length, { s with clients := s.clients ++ [cell] })

/-- Makes a client from options, if there is room for their headers. -/
def build (sr : Surroundings) (options : List ClientOption) : Act Nat := do
  let plan ← Act.ofOutcome (ClientPlan.make sr.world options)
  Act.inScene (plan.prepare sr.listens)
  addClient (cellOf plan)

/-- **Makes a client from options**: a panic about headers that there is no room for, or what is
built. -/
def create (sr : Surroundings) (options : List ClientOption) (s : Session) :
    Except String (Except Error Nat) × Session :=
  match ClientPlan.panic? sr.world options with
  | some text => (.error text, s)
  | none => let (made, s) := (build sr options).perform s; (.ok made, s)

/-- What callers of the shared client get. -/
def ofShared : Except Error Nat → Act Nat
  | .ok c => pure c
  | .error e => throw (.init e)

/-- What is said of a shared client that could not be made. -/
def sharedFailed (w : Wording) (e : Error) : String :=
  "default docker client failed to initialize: " ++ e.text w

/-- Makes the shared client, and keeps what came of it. -/
def makeShared (sr : Surroundings) : Act (Except Error Nat) := do
  let made ← Act.outcome (build sr [])
  match made with
  | .ok _ => pure ()
  | .error e => Act.note (.warned (sharedFailed sr.world.words e))
  Act.change fun s => { s with shared := some made }
  pure made

/-- The client that is made once for all. -/
def sharedClient (sr : Surroundings) : Act Nat := do
  match (← get).shared with
  | some made => ofShared made
  | none => ofShared (← makeShared sr)

/-- The client that was given, the shared one without. -/
def clientOrShared (sr : Surroundings) : Option Nat → Act Nat
  | some c => pure c
  | none => sharedClient sr

/-- A client that was not held, if it still lives. -/
def upgrade (c : Nat) : Act Nat := do
  if (← get).isHeld c then pure c else throw .closed

/-! ### Handles -/

/-- A client of the session. -/
def cell (c : Nat) : Act ClientCell := do
  match (← get).clients[c]? with
  | some cell => pure cell
  | none => throw .closed

/-- Changes what the handles of a client share. -/
def updateState (c : Nat)
    (f : ClientState Link (Fetched DaemonInfo) → ClientState Link (Fetched DaemonInfo)) :
    Act Unit :=
  Act.change fun s =>
    { s with clients := s.clients.modify c fun cell => { cell with state := f cell.state } }

/-- The link of an open client. -/
def link (c : Nat) : Act Link := do
  match (← cell c).state.link with
  | some l => pure l
  | none => throw .closed

/-- Makes a call over the link of an open client. -/
def call {α : Type} (sr : Surroundings) (c : Nat) (what : Call α) : Act α := do
  let l ← link c
  Act.inScene fun scene => scene.call sr.listens l what

/-- Asks whether the daemon is there. -/
def ping (sr : Surroundings) (c : Nat) : Act Unit := call sr c Call.ping

/-- Fetches the daemon's account of itself over a link, and keeps it. -/
def fetchInfo (sr : Surroundings) (c : Nat) (l : Link) : Act (Fetched DaemonInfo) := do
  let record ← Act.inScene fun scene => scene.call sr.listens l Call.info
  let fetched ← Act.number record
  updateState c (·.keep fetched)
  pure fetched

/-- The daemon's account of itself, which is fetched once. -/
def info (sr : Surroundings) (c : Nat) : Act (Fetched DaemonInfo) := do
  match (← cell c).state.peek with
  | .closed => throw .closed
  | .known fetched => pure fetched
  | .unknown _ =>
      match (← cell c).state.claim with
      | .closed => throw .closed
      | .known fetched => pure fetched
      | .unknown l => fetchInfo sr c l

/-- Where the ports of containers can be reached. -/
def daemonHost (sr : Surroundings) (c : Nat) : Act String := do
  let held ← cell c
  let l ← Act.outcome (link c)
  Act.inScene (DaemonHost.find sr.listens sr.world.inContainer held.endpoint.host l)

/-- Closes a client. -/
def close (c : Nat) : Act Unit := updateState c ClientState.close

end DockerClient.Session
