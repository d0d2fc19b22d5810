import DockerClient.Daemon.Call
import DockerClient.Transport

/-
**Talking to a daemon.**

What a daemon will answer is given in advance, one reply to a request, so that everything a client
does is a function of it.  Time passes only while a client waits.

* `Reply` — what happens to a request; `Event` — what can be seen of a client from outside;
* `Scene` — the replies to come, the time that has passed, and the events so far;
* `Link` — how a client reaches the daemon: handed over by the caller, or over a transport;
* `Scene.exchange`, `Scene.call` — sends a request, and makes a call;
* `Scene.pause` — waits;
* `Scene.asSent_over` — **a request that is sent carries the headers of its transport**.
-/

set_option relaxedAutoImplicit false
set_option autoImplicit false

namespace DockerClient

/-- What happens to a request. -/
inductive Reply where
  /-- The daemon responds. -/
  | respond (response : Response)
  /-- Reading or writing fails, for a reason of the system. -/
  | interrupt (reason : String := "")
  /-- The connection ends without a response. -/
  | drop (reason : String := "")
  /-- No response comes in time. -/
  | timeout
  /-- No response ever comes. -/
  | hang
deriving DecidableEq, Repr

/-- What can be seen of a client from outside. -/
inductive Event where
  | sent (request : SentRequest)
  | warned (text : String)
  | failed (text : String)
  | ran (name : String)

/-- The replies to come, the milliseconds that have passed, and the events so far. -/
structure Scene where
  replies : List Reply
  time : Nat := 0
  events : List Event := []

/-- How a client reaches the daemon: over a transport that its caller built, with the number that
tells it from others, or over one of the library. -/
inductive Link where
  | given (handed : Nat)
  | over (transport : Transport)

namespace Scene

/-! ### Steps -/

/-- The scene with one more event. -/
def note (s : Scene) (e : Event) : Scene := { s with events := s.events ++ [e] }

/-- The scene after waiting. -/
def pause (s : Scene) (milliseconds : Nat) : Scene := { s with time := s.time + milliseconds }

/-- The next reply; a daemon without replies ends every connection. -/
def nextReply (s : Scene) : Reply × Scene :=
  match s.replies with
  | [] => (.drop, s)
  | r :: rest => (r, { s with replies := rest })

/-- How long a client waits for a response, in milliseconds. -/
def patience : Nat := 120000

/-- The fault of a connection that ended, which is told apart only on a transport of the library. -/
def dropFault (reason : String) : Link → DaemonFault
  | .given _ => .interrupted reason
  | .over _ => .disconnected reason

/-- What a reply is to the client. -/
def outcomeOf (link : Link) (reply : Reply) (s : Scene) : Except DaemonFault Response × Scene :=
  match reply with
  | .respond response => (.ok response, s)
  | .interrupt reason => (.error (.interrupted reason), s)
  | .drop reason => (.error (dropFault reason link), s)
  | .timeout => (.error .timeout, s)
  | .hang => (.error .timeout, s.pause patience)

/-! ### Requests -/

/-- The headers of every request before those of the client. -/
def baseHeaders : RequestHeaders := RequestHeaders.empty.set "content-type" "application/json"

/-- The request as it is sent over a link, if somebody listens at an address that can be read. -/
def asSent (listens : Route → Bool) (link : Link) (request : Request) :
    Except DaemonFault SentRequest :=
  match link with
  | .given _ => .ok (request.send true none)
  | .over t =>
      if !t.route.isReadable then .error (.addressInvalid t.route.address)
      else if listens t.route then
        .ok (request.send t.route.isTcp (some (HeaderMap.stamp t.headers baseHeaders)))
      else .error (.unreachable t.route.address)

/-- Sends a request. -/
def exchange (listens : Route → Bool) (link : Link) (request : Request) (s : Scene) :
    Except DaemonFault Response × Scene :=
  match asSent listens link request with
  | .error fault => (.error fault, s)
  | .ok sent =>
      let (reply, s) := (s.note (.sent sent)).nextReply
      outcomeOf link reply s

/-- Makes a call. -/
def call {α : Type} (listens : Route → Bool) (link : Link) (call : Call α) (s : Scene) :
    Except Error α × Scene :=
  match exchange listens link call.request s with
  | (.error fault, s) => (.error (.daemon fault), s)
  | (.ok response, s) =>
      match call.read response with
      | .error fault => (.error (.daemon fault), s)
      | .ok a => (.ok a, s)

/-- **A request that is sent carries the headers of its transport**, over those of every request. -/
theorem asSent_over {listens : Route → Bool} {t : Transport} {request : Request}
    {sent : SentRequest} (h : asSent listens (.over t) request = .ok sent) :
    sent = request.send t.route.isTcp (some (HeaderMap.stamp t.headers baseHeaders)) := by
  simp only [asSent] at h
  split at h
  · cases h
  · split at h
    · cases h; rfl
    · cases h

end Scene

end DockerClient
