import DockerClient.Session.Resources

/-
**Teardown in a session.**

* `Resource`, `Session.remove` — what can be registered for removal, and its removal;
* `Session.tryRemove` — removal that ignores errors which are safe to ignore;
* `Session.act` — performs an action of a registry; `Session.runRegistry` — runs a registry;
  `Session.scope` — a body with a registry, and the teardown after it;
* `Session.removalThrough` — the two steps that remove a resource through a client of their own;
* `Session.dropRegistry` — a registry that never runs.
-/

set_option relaxedAutoImplicit false
set_option autoImplicit false

namespace DockerClient

/-- A resource that stands in for one of the daemon: its removal has a given outcome. -/
structure StandIn where
  kind : ResourceKind
  id : String
  outcome : Except Error Unit

/-- What can be registered for removal. -/
inductive Resource where
  | network (n : Nat)
  | volume (v : Nat)
  | standIn (r : StandIn)

namespace Session

/-! ### Removal -/

/-- An action that only leaves a trace, with a given outcome. -/
def pretend (name : String) (outcome : Except Error Unit) : Act Unit := do
  Act.note (.ran name)
  Act.ofOutcome outcome

/-- The action that removes a resource. -/
def Action.ofResource : Resource → Action
  | .network n => .removeNetwork n
  | .volume v => .removeVolume v
  | .standIn r => .pretend r.id r.outcome

/-- Performs an action of a registry. -/
def act (sr : Surroundings) : Action → Act Unit
  | .removeNetwork n => removeNetwork sr n
  | .removeVolume v => removeVolume sr v false
  | .pretend name outcome => pretend name outcome
  | .closeClient c => close c
  | .removeThrough c kind id => removeById sr c kind id

/-- Removes a resource. -/
def remove (sr : Surroundings) (r : Resource) : Act Unit := act sr (.ofResource r)

/-- Removes a resource; an error that is safe to ignore is ignored. -/
def tryRemove (sr : Surroundings) (r : Resource) : Act Unit :=
  tryCatch (remove sr r) fun e => if e.isCleanupSafe then pure () else throw e

/-! ### Registries -/

/-- The step that removes a resource. -/
def stepOf (s : Session) (r : Resource) : Cleanup.Step Action :=
  let name :=
    match r with
    | .network n => Cleanup.removalName "network" ((s.networks[n]?.map (·.receipt.id)).getD "")
    | .volume v => Cleanup.removalName "volume" ((s.volumes[v]?.map (·.receipt.name)).getD "")
    | .standIn r => Cleanup.removalName r.kind.name r.id
  ⟨name, .ofResource r⟩

/-- The steps that remove a resource through a client of their own and then close it; they are
registered in the order in which they are not run. -/
def removalThrough (c : Nat) (kind : ResourceKind) (id : String) : List (Cleanup.Step Action) :=
  [⟨Cleanup.closingName kind.name id, .closeClient c⟩,
   ⟨Cleanup.removalName kind.name id, .removeThrough c kind id⟩]

/-- Notes a failure. -/
def noteFailure (w : Wording) (f : Cleanup.Failure) (s : Session) : Session :=
  { s with scene := s.scene.note (.failed (f.message w)) }

/-- Runs a registry. -/
def runRegistry (sr : Surroundings) (r : Cleanup.Registry Action) (s : Session) :
    List Cleanup.Failure × Session :=
  Cleanup.run (fun a => (act sr a).perform) (noteFailure sr.world.words) r s

/-- Notes how many steps failed after a body that panicked. -/
def countFailures (failures : Nat) (s : Session) : Session :=
  { s with scene := s.scene.note (.failed (Cleanup.afterPanicText failures)) }

/-- A body with a registry, and the teardown after it. -/
def scope {β : Type} (sr : Surroundings)
    (body : Session → (Except String β × Cleanup.Registry Action) × Session) (s : Session) :
    Except String β × Session :=
  Cleanup.scope sr.world.words (fun a => (act sr a).perform) (noteFailure sr.world.words)
    countFailures body s

/-- Drops a registry that never ran. -/
def dropRegistry (r : Cleanup.Registry Action) (s : Session) : Session :=
  if r.isEmpty then s
  else { s with scene := s.scene.note (.warned (Cleanup.droppedText r.length)) }

/-- Drops all registries that are left. -/
def dropAll (s : Session) : Session :=
  s.registries.entries.foldl (fun s e => dropRegistry e.2 s) { s with registries := Table.empty }

end Session

end DockerClient
