import DockerClient.Cleanup
import DockerClient.Client.Health
import DockerClient.Client.State
import DockerClient.Resource.Cache
import DockerClient.Resource.Network
import DockerClient.Resource.Volume

/-
**The state of a session**: everything that a program holds while it works with a daemon.

Clients, networks and volumes are numbered in the order in which they were made.  Names stand for
them; several names can stand for one, which is then shared.  A client lives as long as something
holds it: a name, the slot of the shared client, or a step of a teardown.

* `Surroundings` — what a session runs in;
* `Fetched` — a record, with a number that no other fetch has;
* `ClientCell`, `NetworkCell`, `VolumeCell`, `Session.Action` — what is held;
* `Session`, `Session.isHeld` — the state, and whether a client lives;
* `Act` — operations on a session that can fail, with their basic steps.
-/

set_option relaxedAutoImplicit false
set_option autoImplicit false

namespace DockerClient

/-- What a session runs in: the world, and where the daemon listens. -/
structure Surroundings where
  world : World
  listens : Route → Bool

/-- A record, with a number that no other fetch of the session has. -/
structure Fetched (α : Type) where
  number : Nat
  record : α

/-- A client with what its handles share. -/
structure ClientCell where
  endpoint : Endpoint
  source : EndpointSource
  headers : List Header
  span : Span
  state : ClientState Link (Fetched DaemonInfo)

/-- A network that was made, the client it was made with, and its last record. -/
structure NetworkCell where
  draft : NetworkDraft
  receipt : NetworkReceipt
  client : Nat
  cache : InspectCache (Fetched NetworkRecord) := {}

/-- A volume that was made, the client it was made with, and its last record. -/
structure VolumeCell where
  receipt : VolumeRecord
  client : Nat
  cache : InspectCache (Fetched VolumeRecord) := {}

/-- What a step of a teardown does. -/
inductive Session.Action where
  | removeNetwork (network : Nat)
  | removeVolume (volume : Nat)
  | pretend (name : String) (outcome : Except Error Unit)
  | closeClient (client : Nat)
  | removeThrough (client : Nat) (kind : ResourceKind) (id : String)

/-- The client that a step holds. -/
def Session.Action.client? : Session.Action → Option Nat
  | .closeClient c => some c
  | .removeThrough c _ _ => some c
  | _ => none

/-- The state of a session. -/
structure Session where
  scene : Scene
  fetches : Nat := 0
  clients : List ClientCell := []
  networks : List NetworkCell := []
  volumes : List VolumeCell := []
  shared : Option (Except Error Nat) := none
  clientNames : Table Nat := Table.empty
  weakNames : Table Nat := Table.empty
  networkNames : Table Nat := Table.empty
  volumeNames : Table Nat := Table.empty
  registries : Table (Cleanup.Registry Session.Action) := Table.empty

/-- The session before its first step. -/
def Session.begin (replies : List Reply) : Session := { scene := { replies := replies } }

/-- Whether something holds a client. -/
def Session.isHeld (s : Session) (c : Nat) : Bool :=
  s.clientNames.entries.any (fun e => e.2 == c)
    || (match s.shared with | some (.ok d) => d == c | _ => false)
    || s.registries.entries.any fun e => e.2.any fun step => step.action.client? == some c

/-! ### Operations -/

/-- An operation on a session that can fail. -/
abbrev Act := ExceptT Error (StateM Session)

namespace Act

/-- Performs an operation. -/
def perform {α : Type} (act : Act α) (s : Session) : Except Error α × Session :=
  (ExceptT.run act).run s

/-- The operation that has an outcome. -/
def ofOutcome {α : Type} (outcome : Except Error α) : Act α := ExceptT.mk (pure outcome)

/-- The operation that a step in the scene is. -/
def inScene {α : Type} (f : Scene → Except Error α × Scene) : Act α :=
  ExceptT.mk fun s => let (outcome, scene) := f s.scene; (outcome, { s with scene := scene })

/-- Changes the session. -/
def change (f : Session → Session) : Act Unit := ExceptT.mk fun s => (.ok (), f s)

/-- Notes an event. -/
def note (e : Event) : Act Unit := change fun s => { s with scene := s.scene.note e }

/-- Gives a record its number. -/
def number {α : Type} (record : α) : Act (Fetched α) :=
  ExceptT.mk fun s => (.ok ⟨s.fetches, record⟩, { s with fetches := s.fetches + 1 })

/-- The outcome of an operation, which then does not fail. -/
def outcome {α : Type} (act : Act α) : Act (Except Error α) :=
  ExceptT.mk fun s => let (o, s) := act.perform s; (.ok o, s)

end Act

end DockerClient
