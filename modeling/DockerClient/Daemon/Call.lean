import DockerClient.Daemon.Request
import DockerClient.Daemon.Response

/-
**Calls to the daemon**: a request with the way to read what comes back.

* `Call`, `Call.read` — a request, and its result from a response;
* `Call.ping`, `Call.version` — calls about the daemon itself;
* `DaemonInfo`, `Call.info` — what the daemon says of itself;
* `Call.read_ok_iff` — **a call succeeds exactly on a success whose body can be read**.
-/

set_option relaxedAutoImplicit false
set_option autoImplicit false

namespace DockerClient

/-- A request with the way to read the body of a success. -/
structure Call (α : Type) where
  request : Request
  decode : List UInt8 → Option α

namespace Call

variable {α : Type}

/-- The result of a call from a response. -/
def read (call : Call α) (r : Response) : Except DaemonFault α :=
  match r.content with
  | .error fault => .error fault
  | .ok body =>
      match call.decode body with
      | some a => .ok a
      | none => .error (.undecodable call.request.line body)

/-- **A call succeeds exactly on a success whose body can be read.** -/
theorem read_ok_iff (call : Call α) (r : Response) (a : α) :
    call.read r = .ok a ↔ r.isSuccess = true ∧ call.decode r.body = some a := by
  unfold read Response.content
  by_cases h : r.isSuccess = true
  · rw [if_pos h]
    cases hd : call.decode r.body <;> simp [h, hd]
  · rw [if_neg h]
    cases Refusal.read r.body <;> simp [h]

/-- The value of a body that is one written value. -/
def json (f : Json.Raw → Option α) (body : List UInt8) : Option α :=
  match Json.Raw.read body with
  | .ok raw => f raw
  | .error _ => none

/-- Asks whether the daemon is there. -/
def ping : Call Unit :=
  ⟨⟨.get, "/_ping", none, none⟩, fun body => (Text.decode? body).map fun _ => ()⟩

/-- Asks for the version of the daemon, of which nothing is kept. -/
def version : Call Unit := ⟨⟨.get, "/version", none, none⟩, fun _ => some ()⟩

end Call

/-! ### The daemon's account of itself -/

/-- What the daemon says of itself. -/
structure DaemonInfo where
  id : Option String
  name : Option String
  processors : Option Int
deriving DecidableEq, Repr

/-- What a written value says of a daemon. -/
def DaemonInfo.ofRaw? (raw : Json.Raw) : Option DaemonInfo :=
  match Json.Record.object? ["ID", "Name", "NCPU"] raw with
  | some ([id, name, processors], _) => do
      let id ← Json.optional Json.Raw.string? id
      let name ← Json.optional Json.Raw.string? name
      let processors ← Json.optional Json.Raw.int? processors
      some ⟨id, name, processors⟩
  | _ => none

/-- Asks the daemon for an account of itself. -/
def Call.info : Call DaemonInfo :=
  ⟨⟨.get, "/info", none, none⟩, Call.json DaemonInfo.ofRaw?⟩

end DockerClient
