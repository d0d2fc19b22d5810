import DockerClient.Client.Description
import DockerClient.Duration
import DockerClient.Session.Teardown

/-
**A session, step by step.**

* `Session.Step` — what a program can do with clients, networks, volumes and teardowns, with names
  for what it holds;
* `Session.Answer` — what it gets back; `Session.Report` — with the events and the time of the step;
* `Session.run` — **performs a step**; `Session.finish` — ends the session.

A step that refers to a name which stands for nothing does nothing.
-/

set_option relaxedAutoImplicit false
set_option autoImplicit false

namespace DockerClient.Session

/-- A resource, by name, or one that stands in for it. -/
inductive Reference where
  | network (name : String)
  | volume (name : String)
  | standIn (r : StandIn)

/-- Whose client a step uses: a named one, or the shared one. -/
abbrev Via := Option String

/-- What a program can do with clients. -/
inductive ClientStep where
  | create (as : String) (options : List ClientOption)
  | shared (as : String)
  | clone (client as : String)
  | drop (client : String)
  | weaken (client as : String)
  | upgrade (weak : String) (as : Option String)
  | show (client : String)
  | showOptions (options : List ClientOption)
  | link (client : String)
  | ping (client : String)
  | close (client : String)
  | isClosed (client : String)
  | daemonHost (client : String)
  | info (client : String)
  | removeById (client : String) (kind : ResourceKind) (id : String)

/-- What a program can do with networks. -/
inductive NetworkStep where
  | create (via : Via) (as : String) (draft : NetworkDraft)
  | inspect (network : String) (useCache verbose : Bool) (scope : Option String)
  | remove (network : String)
  | clone (network as : String)
  | client (network : String)
  | list (via : Via) (filters : Filters)
  | findById (via : Via) (filters : Filters) (id : String)
  | findByName (via : Via) (filters : Filters) (name : String)

/-- What a program can do with volumes. -/
inductive VolumeStep where
  | create (via : Via) (as : String) (draft : VolumeDraft)
  | inspect (volume : String) (useCache : Bool)
  | remove (volume : String) (force : Bool)
  | clone (volume as : String)
  | client (volume : String)
  | list (via : Via) (filters : Filters)
  | find (via : Via) (filters : Filters) (name : String)

/-- What a program can do about teardown. -/
inductive TeardownStep where
  | tryRemove (resource : Reference)
  | create (as : String)
  | register (registry : String) (resource : Reference)
  | defer (registry name : String) (outcome : Except Error Unit)
  | registerById (registry : String) (kind : ResourceKind) (id : String)
  | size (registry : String)
  | show (registry : String)
  | run (registry : String)
  | drop (registry : String)
  | scope (resources : List StandIn) (body : Except String Json.Value)

/-- What a program can do. -/
inductive Step where
  | clients (step : ClientStep)
  | networks (step : NetworkStep)
  | volumes (step : VolumeStep)
  | teardown (step : TeardownStep)
  | withTimeout (limit : Nat) (work : Option Nat) (outcome : Except Error Json.Value)

/-- What a program gets back. -/
inductive Answer where
  | done
  | noSuchHandle
  | failed (e : Error)
  | panicked (text : String)
  | client (c : ClientCell)
  | text (s : String)
  | texts (ss : List String)
  | flag (b : Bool)
  | shown (text : String) (span : Option String)
  | info (f : Fetched DaemonInfo)
  | createdNetwork (n : NetworkCell)
  | inspectedNetwork (f : Fetched NetworkRecord)
  | network (r : NetworkRecord)
  | networks (rs : List NetworkRecord)
  | createdVolume (v : VolumeCell)
  | inspectedVolume (f : Fetched VolumeRecord)
  | volume (r : VolumeRecord)
  | volumes (rs : List VolumeRecord)
  | size (n : Nat)
  | value (v : Json.Value)
  | scoped (v : Json.Value) (steps : Nat)

/-! ### Names -/

/-- What a step does to a session. -/
abbrev Effect := Session → Answer × Session

/-- The effect of an operation, whose success is answered in the given way. -/
def ofAct {α : Type} (act : Act α) (answer : α → Answer) : Effect := fun s =>
  match act.perform s with
  | (.ok a, s) => (answer a, s)
  | (.error e, s) => (.failed e, s)

/-- The effect of an operation whose success says nothing more. -/
def ofUnit (act : Act Unit) : Effect := ofAct act fun _ => .done

/-- Looks up what a name stands for. -/
def named {α : Type} (table : Session → Table α) (name : String) (f : α → Effect) : Effect :=
  fun s =>
    match (table s).get? name with
    | some a => f a s
    | none => (.noSuchHandle, s)

/-- Looks up the client that a step names, if it names one. -/
def via (client : Via) (f : Option Nat → Effect) : Effect :=
  match client with
  | none => f none
  | some name => named (·.clientNames) name fun c => f (some c)

/-- Looks up the resource that a step names. -/
def resource (r : Reference) (f : Resource → Effect) : Effect :=
  match r with
  | .network name => named (·.networkNames) name fun n => f (.network n)
  | .volume name => named (·.volumeNames) name fun v => f (.volume v)
  | .standIn r => f (.standIn r)

/-- Lets a name stand for a client. -/
def nameClient (as : String) (c : Nat) : Act Unit :=
  Act.change fun s => { s with clientNames := s.clientNames.insert as c }

/-- Makes a client with a name. -/
def clientAs (as : String) (act : Act Nat) : Effect :=
  ofAct (do
    let c ← act
    nameClient as c
    cell c) .client

/-- The answer about the size of a registry. -/
def sizeOf (registry : String) : Effect :=
  named (·.registries) registry fun r s => (.size r.length, s)

/-- Adds steps to a registry. -/
def addSteps (registry : String) (steps : Session → List (Cleanup.Step Action)) : Effect :=
  named (·.registries) registry fun r s =>
    sizeOf registry { s with registries := s.registries.insert registry (r ++ steps s) }

/-- The host of a client that is not held. -/
def hostOf (c : Nat) : Act String := do
  let held ← cell (← upgrade c)
  pure held.endpoint.host

/-! ### Steps -/

/-- The effect of a step about clients. -/
def onClients (sr : Surroundings) : ClientStep → Effect
  | .create as options => fun s =>
      match create sr options s with
      | (.error text, s) => (.panicked text, s)
      | (.ok made, s) => clientAs as (Act.ofOutcome made) s
  | .shared as => clientAs as (sharedClient sr)
  | .clone client as => named (·.clientNames) client fun c => ofUnit (nameClient as c)
  | .drop client =>
      named (·.clientNames) client fun _ s =>
        (.done, { s with clientNames := s.clientNames.erase client })
  | .weaken client as =>
      named (·.clientNames) client fun c s =>
        (.done, { s with weakNames := s.weakNames.insert as c })
  | .upgrade weak as =>
      named (·.weakNames) weak fun c =>
        ofAct (do
          let host ← hostOf c
          match as with
          | some name => nameClient name c
          | none => pure ()
          pure host) .text
  | .show client =>
      named (·.clientNames) client fun c =>
        ofAct (cell c) fun held =>
          .shown (ClientText.describe held.endpoint held.source) held.span.name
  | .showOptions options => fun s => (.texts (options.map ClientOption.debugText), s)
  | .link client => named (·.clientNames) client fun c => ofAct (link c) fun _ => .done
  | .ping client => named (·.clientNames) client fun c => ofUnit (ping sr c)
  | .close client => named (·.clientNames) client fun c => ofUnit (close c)
  | .isClosed client =>
      named (·.clientNames) client fun c =>
        ofAct (cell c) fun held => .flag held.state.isClosed
  | .daemonHost client => named (·.clientNames) client fun c => ofAct (daemonHost sr c) .text
  | .info client => named (·.clientNames) client fun c => ofAct (info sr c) .info
  | .removeById client kind id =>
      named (·.clientNames) client fun c => ofUnit (removeById sr c kind id)

/-- The effect of a step about networks. -/
def onNetworks (sr : Surroundings) : NetworkStep → Effect
  | .create client as draft =>
      via client fun c =>
        ofAct (do
          let n ← createNetwork sr c draft
          Act.change fun s => { s with networkNames := s.networkNames.insert as n }
          network n) .createdNetwork
  | .inspect name useCache verbose scope =>
      named (·.networkNames) name fun n =>
        ofAct (inspectNetwork sr n useCache verbose scope) .inspectedNetwork
  | .remove name => named (·.networkNames) name fun n => ofUnit (removeNetwork sr n)
  | .clone name as =>
      named (·.networkNames) name fun n s =>
        (.done, { s with networkNames := s.networkNames.insert as n })
  | .client name =>
      named (·.networkNames) name fun n => ofAct (do hostOf (← network n).client) .text
  | .list client filters => via client fun c => ofAct (listNetworks sr c filters) .networks
  | .findById client filters id =>
      via client fun c => ofAct (findNetworkById sr c filters id) .network
  | .findByName client filters name =>
      via client fun c => ofAct (findNetworkByName sr c filters name) .network

/-- The effect of a step about volumes. -/
def onVolumes (sr : Surroundings) : VolumeStep → Effect
  | .create client as draft =>
      via client fun c =>
        ofAct (do
          let v ← createVolume sr c draft
          Act.change fun s => { s with volumeNames := s.volumeNames.insert as v }
          volume v) .createdVolume
  | .inspect name useCache =>
      named (·.volumeNames) name fun v => ofAct (inspectVolume sr v useCache) .inspectedVolume
  | .remove name force => named (·.volumeNames) name fun v => ofUnit (removeVolume sr v force)
  | .clone name as =>
      named (·.volumeNames) name fun v s =>
        (.done, { s with volumeNames := s.volumeNames.insert as v })
  | .client name =>
      named (·.volumeNames) name fun v => ofAct (do hostOf (← volume v).client) .text
  | .list client filters => via client fun c => ofAct (listVolumes sr c filters) .volumes
  | .find client filters name =>
      via client fun c => ofAct (findVolume sr c filters name) .volume

/-- The answer that the end of a teardown gives. -/
def ofConclusion {β : Type} (answer : β → Answer) : Except String β → Answer
  | .ok b => answer b
  | .error text => .panicked text

/-- A body that registers resources, and the teardown after it. -/
def runScope (sr : Surroundings) (resources : List StandIn) (body : Except String Json.Value) :
    Effect := fun s =>
  let (outcome, s) :=
    scope sr (fun s => ((body, resources.map fun r => stepOf s (.standIn r)), s)) s
  (ofConclusion (fun v => .scoped v resources.length) outcome, s)

/-- The effect of a step about teardown. -/
def onTeardown (sr : Surroundings) : TeardownStep → Effect
  | .tryRemove r => resource r fun r => ofUnit (tryRemove sr r)
  | .create as => fun s =>
      let s := dropRegistry ((s.registries.get? as).getD []) s
      (.done, { s with registries := s.registries.insert as [] })
  | .register registry r =>
      named (·.registries) registry fun _ =>
        resource r fun r => addSteps registry fun s => [stepOf s r]
  | .defer registry name outcome => addSteps registry fun _ => [⟨name, .pretend name outcome⟩]
  | .registerById registry kind id =>
      named (·.registries) registry fun _ s =>
        match (build sr []).perform s with
        | (.error e, s) => (.failed e, s)
        | (.ok c, s) => addSteps registry (fun _ => removalThrough c kind id) s
  | .size registry => sizeOf registry
  | .show registry =>
      named (·.registries) registry fun r s => (.text (Cleanup.debugText r), s)
  | .run registry =>
      named (·.registries) registry fun r s =>
        let (failures, s) := runRegistry sr r { s with registries := s.registries.erase registry }
        (ofConclusion (fun _ => .done) (Cleanup.conclude sr.world.words failures), s)
  | .drop registry =>
      named (·.registries) registry fun r s =>
        (.done, dropRegistry r { s with registries := s.registries.erase registry })
  | .scope resources body => runScope sr resources body

/-- Work with a limit in nanoseconds. -/
def withTimeout (limit : Nat) (work : Option Nat) (outcome : Except Error Json.Value) : Effect :=
  fun s =>
    let (finished, time) := Duration.race limit work
    let s := { s with scene := s.scene.pause time }
    if finished then
      match outcome with
      | .ok v => (.value v, s)
      | .error e => (.failed e, s)
    else (.failed (.timeout (Duration.elapsedText limit)), s)

/-- The effect of a step. -/
def effect (sr : Surroundings) : Step → Effect
  | .clients step => onClients sr step
  | .networks step => onNetworks sr step
  | .volumes step => onVolumes sr step
  | .teardown step => onTeardown sr step
  | .withTimeout limit work outcome => withTimeout limit work outcome

/-! ### Reports -/

/-- What a step leads to: an answer, the events, and the milliseconds that it took. -/
structure Report where
  answer : Answer
  events : List Event
  time : Nat

/-- **Performs a step.** -/
def run (sr : Surroundings) (step : Step) (s : Session) : Report × Session :=
  let (answer, after) := effect sr step { s with scene := { s.scene with events := [] } }
  (⟨answer, after.scene.events, after.scene.time - s.scene.time⟩, after)

/-- The events at the end of a session. -/
def finish (s : Session) : List Event :=
  (dropAll { s with scene := { s.scene with events := [] } }).scene.events

end DockerClient.Session
