import DockerClient.Proofs.HandleSessions
import DockerClient.Session.Step
import Mathlib.Data.List.Infix

/-
**What a session holds of networks and volumes**, and what leaves it alone.

Networks and volumes are numbered as they are made.  New ones come after the old ones, and of what
is held of an old one nothing changes but the record that an inspection keeps.

* `Session.Grows`, `Act.Grows` — all resources are held as before, and maybe new ones;
* `Session.grows_act`, `Session.grows_runRegistry`, `Session.grows_scope` — teardown leaves resources
  alone;
* `Session.Steady`, `Session.steady_effect` — **only inspections change what is held**.
-/

set_option relaxedAutoImplicit false
set_option autoImplicit false

namespace DockerClient

/-! ### Sessions that grow -/

/-- All networks and volumes are held as before, and maybe new ones. -/
structure Session.Grows (s t : Session) : Prop where
  networks : s.networks <+: t.networks
  volumes : s.volumes <+: t.volumes

namespace Session.Grows

variable {s t u : Session}

/-- What does not concern resources leaves them alone. -/
theorem of_eq (hn : t.networks = s.networks) (hv : t.volumes = s.volumes) : Grows s t :=
  ⟨by rw [hn], by rw [hv]⟩

theorem refl (s : Session) : Grows s s := .of_eq rfl rfl

/-- Registries are no resources. -/
theorem of_registries (s : Session) (registries : Table (Cleanup.Registry Action)) :
    Grows s { s with registries := registries } := .of_eq rfl rfl

theorem trans (h : Grows s t) (h' : Grows t u) : Grows s u :=
  ⟨h.networks.trans h'.networks, h.volumes.trans h'.volumes⟩

end Session.Grows

namespace Act

variable {α β : Type}

/-- An operation leaves resources alone, but for new ones. -/
def Grows (act : Act α) : Prop := ∀ s, Session.Grows s (act.perform s).2

namespace Grows

variable {act : Act α}

theorem pure (a : α) : Grows (Pure.pure a : Act α) := fun s => .refl s

theorem throw (e : Error) : Grows (MonadExcept.throw e : Act α) := fun s => .refl s

theorem get : Grows (MonadState.get : Act Session) := fun s => .refl s

theorem ofOutcome (outcome : Except Error α) : Grows (Act.ofOutcome outcome) := fun s => .refl s

/-- What happens in the scene is told to no resource. -/
theorem inScene (f : Scene → Except Error α × Scene) : Grows (Act.inScene f) :=
  fun _ => .of_eq rfl rfl

theorem note (e : Event) : Grows (Act.note e) := fun _ => .of_eq rfl rfl

theorem number (record : α) : Grows (Act.number record) := fun _ => .of_eq rfl rfl

/-- A change that does not concern resources. -/
theorem change {f : Session → Session}
    (h : ∀ s, (f s).networks = s.networks ∧ (f s).volumes = s.volumes) : Grows (Act.change f) :=
  fun s => .of_eq (h s).1 (h s).2

theorem outcome (h : Grows act) : Grows act.outcome := h

/-- **One operation after another** leaves resources alone if both do. -/
theorem bind {f : α → Act β} (h : Grows act) (hf : ∀ a, Grows (f a)) : Grows (act >>= f) := by
  intro s
  have hfirst := h s
  rw [perform_bind]
  generalize act.perform s = performed at hfirst
  obtain ⟨_ | a, after⟩ := performed
  · exact hfirst
  · exact hfirst.trans (hf a after)

/-- A failure that is caught undoes nothing, and what is done instead counts too. -/
theorem tryCatch {f : Error → Act α} (h : Grows act) (hf : ∀ e, Grows (f e)) :
    Grows (MonadExcept.tryCatch act f) := by
  intro s
  have hfirst := h s
  rw [perform_tryCatch]
  generalize act.perform s = performed at hfirst
  obtain ⟨e | _, after⟩ := performed
  · exact hfirst.trans (hf e after)
  · exact hfirst

end Grows

end Act

namespace Session

open Act.Grows

variable {sr : Surroundings} {c : Nat}

/-! ### Operations on clients -/

theorem grows_cell : (cell c).Grows := by
  refine bind get fun s => ?_
  split
  · exact pure _
  · exact throw _

/-- To look for the link of a client is to look at its cell. -/
theorem grows_link : (link c).Grows := by
  refine bind grows_cell fun held => ?_
  split
  · exact pure _
  · exact throw _

theorem grows_upgrade : (upgrade c).Grows := by
  refine bind get fun s => ?_
  split
  · exact pure _
  · exact throw _

/-- **Whatever the daemon is asked**, its answer is not kept here. -/
theorem grows_call {α : Type} (what : Call α) : (call sr c what).Grows :=
  bind grows_link fun _ => inScene _

/-- A client that is made brings no resources. -/
theorem grows_build (options : List ClientOption) : (build sr options).Grows :=
  bind (ofOutcome _) fun _ => bind (inScene _) fun _ => fun _ => .of_eq rfl rfl

theorem grows_ofShared (made : Except Error Nat) : (ofShared made).Grows := by
  cases made with
  | ok c => exact pure c
  | error e => exact throw _

theorem grows_makeShared : (makeShared sr).Grows := by
  refine bind (grows_build []).outcome fun made => ?_
  -- what was made is kept in both cases
  have keeping : (do
      Act.change fun s => { s with shared := some made }
      Pure.pure made : Act (Except Error Nat)).Grows :=
    bind (change fun _ => ⟨rfl, rfl⟩) fun _ => pure made
  cases made with
  | ok c => exact keeping
  | error e => exact bind (note _) fun _ => keeping

/-- The shared client is made at most once, and kept with the session. -/
theorem grows_sharedClient : (sharedClient sr).Grows := by
  refine bind get fun s => ?_
  split
  · exact grows_ofShared _
  · exact bind grows_makeShared grows_ofShared

theorem grows_clientOrShared (client : Option Nat) : (clientOrShared sr client).Grows := by
  cases client with
  | some c => exact pure c
  | none => exact grows_sharedClient

theorem grows_updateState
    (f : ClientState Link (Fetched DaemonInfo) → ClientState Link (Fetched DaemonInfo)) :
    (updateState c f).Grows := change fun _ => ⟨rfl, rfl⟩

/-- An account is kept with its client. -/
theorem grows_info : (info sr c).Grows := by
  refine bind grows_cell fun held => ?_
  split
  · exact throw _
  · exact pure _
  · refine bind grows_cell fun held => ?_
    split
    · exact throw _
    · exact pure _
    · exact bind (inScene _) fun record => bind (number _) fun fetched =>
        bind (grows_updateState _) fun _ => pure fetched

theorem grows_daemonHost : (daemonHost sr c).Grows :=
  bind grows_cell fun _ => bind grows_link.outcome fun _ => inScene _

theorem grows_hostOf : (hostOf c).Grows :=
  bind grows_upgrade fun _ => bind grows_cell fun _ => pure _

/-! ### Operations on resources -/

theorem grows_within {α : Type} {text : String} {act : Act α} (h : act.Grows) :
    (within text act).Grows := tryCatch h fun _ => throw _

theorem grows_network (n : Nat) : (network n).Grows := by
  refine bind get fun s => ?_
  split
  · exact pure _
  · exact throw _

theorem grows_volume (v : Nat) : (volume v).Grows := by
  refine bind get fun s => ?_
  split
  · exact pure _
  · exact throw _

/-- **A network that is made comes after the old ones.** -/
theorem grows_addNetwork (cell : NetworkCell) : (addNetwork cell).Grows :=
  fun _ => ⟨List.prefix_append _ _, List.prefix_rfl⟩

/-- **A volume that is made comes after the old ones.** -/
theorem grows_addVolume (cell : VolumeCell) : (addVolume cell).Grows :=
  fun _ => ⟨List.prefix_rfl, List.prefix_append _ _⟩

theorem grows_passOn (warning : String) : (passOn warning).Grows := by
  unfold passOn
  split
  · exact pure ()
  · exact note _

theorem grows_passOnAll (warnings : List String) : (passOnAll warnings).Grows := by
  induction warnings with
  | nil => exact pure ()
  | cons w rest ih => exact bind (note _) fun _ => ih

/-- A network that the daemon created is held from then on. -/
theorem grows_createNetwork (client : Option Nat) (draft : NetworkDraft) :
    (createNetwork sr client draft).Grows := by
  unfold createNetwork
  have creating : ∀ _ : Unit, (do
      let c ← clientOrShared sr client
      let receipt ← call sr c (Call.createNetwork draft.labelled)
      passOn receipt.warning
      addNetwork { draft := draft.labelled, receipt := receipt, client := c }).Grows := fun _ =>
    bind (grows_clientOrShared client) fun c => bind (grows_call _) fun receipt =>
      bind (grows_passOn _) fun _ => grows_addNetwork _
  dsimp only
  split
  · exact bind (throw _) creating
  · exact creating ()

theorem grows_removeNetworkById (id : String) : (removeNetworkById sr c id).Grows :=
  bind grows_link fun _ => grows_within (inScene _)

/-- A network that was removed is still held, for those who ask about it later. -/
theorem grows_removeNetwork (n : Nat) : (removeNetwork sr n).Grows :=
  bind (grows_network n) fun _ => bind grows_upgrade fun _ => grows_removeNetworkById _

theorem grows_listNetworks (client : Option Nat) (filters : Filters) :
    (listNetworks sr client filters).Grows :=
  bind (grows_clientOrShared client) fun _ => grows_call _

theorem grows_findNetworkById (client : Option Nat) (filters : Filters) (id : String) :
    (findNetworkById sr client filters id).Grows := by
  refine bind (grows_listNetworks client _) fun found => ?_
  split
  · exact pure _
  · exact throw _

theorem grows_findNetworkByName (client : Option Nat) (filters : Filters) (name : String) :
    (findNetworkByName sr client filters name).Grows := by
  refine bind (grows_listNetworks client _) fun found => ?_
  split
  · exact pure _
  · exact throw _

theorem grows_createVolume (client : Option Nat) (draft : VolumeDraft) :
    (createVolume sr client draft).Grows :=
  bind (grows_clientOrShared client) fun _ => bind (grows_call _) fun _ => grows_addVolume _

theorem grows_removeVolumeByName (name : String) (force : Bool) :
    (removeVolumeByName sr c name force).Grows :=
  bind grows_link fun _ => grows_within (inScene _)

theorem grows_removeVolume (v : Nat) (force : Bool) : (removeVolume sr v force).Grows :=
  bind (grows_volume v) fun _ => bind grows_upgrade fun _ => grows_removeVolumeByName _ _

theorem grows_listVolumes (client : Option Nat) (filters : Filters) :
    (listVolumes sr client filters).Grows :=
  bind (grows_clientOrShared client) fun _ => bind (grows_call _) fun _ =>
    bind (grows_passOnAll _) fun _ => pure _

theorem grows_findVolume (client : Option Nat) (filters : Filters) (name : String) :
    (findVolume sr client filters name).Grows := by
  refine bind (grows_listVolumes client _) fun found => ?_
  split
  · exact pure _
  · exact throw _

theorem grows_removeById (kind : ResourceKind) (id : String) : (removeById sr c kind id).Grows := by
  cases kind with
  | network => exact grows_removeNetworkById id
  | volume => exact grows_removeVolumeByName id false

/-! ### Teardown -/

/-- **No action of a teardown concerns what is held of a resource.** -/
theorem grows_act (a : Action) : (act sr a).Grows := by
  cases a with
  | removeNetwork n => exact grows_removeNetwork n
  | removeVolume v => exact grows_removeVolume v false
  | pretend name outcome => exact bind (note _) fun _ => ofOutcome outcome
  | closeClient c => exact grows_updateState _
  | removeThrough c kind id => exact grows_removeById kind id

theorem grows_tryRemove (r : Resource) : (tryRemove sr r).Grows := by
  refine tryCatch (grows_act _) fun e => ?_
  split
  · exact pure ()
  · exact throw e

/-- Steps of a teardown leave resources alone, whether they fail or not. -/
theorem grows_runSteps (steps : List (Cleanup.Step Action)) (s : Session) :
    Grows s (Cleanup.runSteps (fun a => (act sr a).perform) (noteFailure sr.world.words) steps s).2 := by
  induction steps generalizing s with
  | nil => exact .refl s
  | cons step rest ih =>
      have hstep : Grows s ((act sr step.action).perform s).2 := grows_act step.action s
      rw [Cleanup.runSteps]
      generalize (act sr step.action).perform s = performed at hstep
      obtain ⟨outcome, after⟩ := performed
      dsimp only
      split
      · exact hstep.trans (ih after)
      · rename_i f _
        have hnote : Grows after (noteFailure sr.world.words f after) := .of_eq rfl rfl
        exact hstep.trans (hnote.trans (ih _))

theorem grows_runRegistry (r : Cleanup.Registry Action) (s : Session) :
    Grows s (runRegistry sr r s).2 := grows_runSteps _ s

theorem grows_dropRegistry (r : Cleanup.Registry Action) (s : Session) :
    Grows s (dropRegistry r s) := by
  unfold dropRegistry
  split
  · exact .refl s
  · exact .of_eq rfl rfl

/-- After a body with a registry all is held that was held after the body. -/
theorem grows_scope {β : Type} {body : Session → (Except String β × Cleanup.Registry Action) × Session}
    (h : ∀ s, Grows s (body s).2) (s : Session) : Grows s (scope sr body s).2 := by
  have hbody := h s
  rw [scope, Cleanup.scope]
  generalize body s = done at hbody
  obtain ⟨⟨outcome, r⟩, after⟩ := done
  -- the registry runs from where the body ended, even if the body panicked
  have hrun : Grows after (runRegistry sr r after).2 := grows_runRegistry r after
  rw [runRegistry] at hrun
  dsimp only
  generalize Cleanup.run _ (noteFailure sr.world.words) r after = torn at hrun
  obtain ⟨failures, t⟩ := torn
  have hboth : Grows s t := hbody.trans hrun
  cases outcome with
  | ok value => exact hboth
  | error panic =>
      dsimp only
      split
      · exact hboth
      · exact hboth.trans (.of_eq rfl rfl)

/-! ### Steps -/

/-- An effect leaves resources alone, but for new ones. -/
def Steady (e : Effect) : Prop := ∀ s, Grows s (e s).2

/-- An operation that leaves resources alone does so as a step, whatever its answer. -/
theorem steady_ofAct {α : Type} {act : Act α} {answer : α → Answer} (h : act.Grows) :
    Steady (ofAct act answer) := by
  intro s
  have hact := h s
  unfold ofAct
  generalize act.perform s = performed at hact
  obtain ⟨_ | a, after⟩ := performed <;> exact hact

/-- A step about something unknown does nothing. -/
theorem steady_named {α : Type} {table : Session → Table α} {name : String} {f : α → Effect}
    (h : ∀ a, Steady (f a)) : Steady (named table name f) := by
  intro s
  unfold named
  split
  · exact h _ s
  · exact .refl s

/-- A step through a client does what it does with the client that is found. -/
theorem steady_via {client : Via} {f : Option Nat → Effect} (h : ∀ c, Steady (f c)) :
    Steady (via client f) := by
  cases client with
  | none => exact h none
  | some name => exact steady_named fun c => h (some c)

theorem steady_resource {r : Reference} {f : Resource → Effect} (h : ∀ r, Steady (f r)) :
    Steady (resource r f) := by
  cases r with
  | network name => exact steady_named fun n => h (.network n)
  | volume name => exact steady_named fun v => h (.volume v)
  | standIn r => exact h (.standIn r)

/-- What changes neither networks nor volumes. -/
theorem steady_of_eq {e : Effect}
    (h : ∀ s, (e s).2.networks = s.networks ∧ (e s).2.volumes = s.volumes) : Steady e :=
  fun s => .of_eq (h s).1 (h s).2

theorem steady_addSteps (registry : String) (steps : Session → List (Cleanup.Step Action)) :
    Steady (addSteps registry steps) := by
  refine steady_named fun r s => ?_
  have hadd := Grows.of_registries s (s.registries.insert registry (r ++ steps s))
  exact hadd.trans (steady_named (fun r => steady_of_eq fun s => ⟨rfl, rfl⟩) _)

theorem grows_nameClient (as : String) : (nameClient as c).Grows := change fun _ => ⟨rfl, rfl⟩

theorem steady_clientAs {as : String} {act : Act Nat} (h : act.Grows) : Steady (clientAs as act) :=
  steady_ofAct (bind h fun _ => bind (grows_nameClient as) fun _ => grows_cell)

/-- A client that is made brings no resources, and a panic leaves all that is held. -/
theorem steady_create (as : String) (options : List ClientOption) :
    Steady (onClients sr (.create as options)) := by
  intro s
  rw [onClients]
  dsimp only
  rw [create]
  have hbuild : Grows s ((build sr options).perform s).2 := grows_build options s
  generalize (build sr options).perform s = built at hbuild
  cases ClientPlan.panic? sr.world options with
  | some text => exact .refl s
  | none => exact hbuild.trans (steady_clientAs (ofOutcome built.1) built.2)

theorem steady_onClients (step : ClientStep) : Steady (onClients sr step) := by
  cases step with
  | create as options => exact steady_create as options
  | shared as => exact steady_clientAs grows_sharedClient
  | clone client as => exact steady_named fun _ => steady_ofAct (grows_nameClient as)
  | drop client | weaken client as =>
      exact steady_named fun _ => steady_of_eq fun _ => ⟨rfl, rfl⟩
  | upgrade weak as =>
      refine steady_named fun c => steady_ofAct (bind grows_hostOf fun host => ?_)
      cases as with
      | none => exact pure host
      | some name => exact bind (grows_nameClient name) fun _ => pure host
  | «show» client | isClosed client => exact steady_named fun _ => steady_ofAct grows_cell
  | showOptions options => exact steady_of_eq fun _ => ⟨rfl, rfl⟩
  | link client => exact steady_named fun _ => steady_ofAct grows_link
  | ping client => exact steady_named fun _ => steady_ofAct (grows_call _)
  | close client => exact steady_named fun _ => steady_ofAct (grows_updateState _)
  | daemonHost client => exact steady_named fun _ => steady_ofAct grows_daemonHost
  | info client => exact steady_named fun _ => steady_ofAct grows_info
  | removeById client kind id => exact steady_named fun _ => steady_ofAct (grows_removeById kind id)

theorem steady_onNetworks {step : NetworkStep}
    (h : ∀ name useCache verbose scope, step ≠ .inspect name useCache verbose scope) :
    Steady (onNetworks sr step) := by
  cases step with
  | create client as draft =>
      exact steady_via fun c => steady_ofAct (bind (grows_createNetwork c draft) fun _ =>
        bind (change fun _ => ⟨rfl, rfl⟩) fun _ => grows_network _)
  | inspect name useCache verbose scope => exact absurd rfl (h name useCache verbose scope)
  | remove name => exact steady_named fun n => steady_ofAct (grows_removeNetwork n)
  | clone name as => exact steady_named fun _ => steady_of_eq fun _ => ⟨rfl, rfl⟩
  | client name =>
      exact steady_named fun n => steady_ofAct (bind (grows_network n) fun _ => grows_hostOf)
  | list client filters => exact steady_via fun c => steady_ofAct (grows_listNetworks c filters)
  | findById client filters id =>
      exact steady_via fun c => steady_ofAct (grows_findNetworkById c filters id)
  | findByName client filters name =>
      exact steady_via fun c => steady_ofAct (grows_findNetworkByName c filters name)

theorem steady_onVolumes {step : VolumeStep} (h : ∀ name useCache, step ≠ .inspect name useCache) :
    Steady (onVolumes sr step) := by
  cases step with
  | create client as draft =>
      exact steady_via fun c => steady_ofAct (bind (grows_createVolume c draft) fun _ =>
        bind (change fun _ => ⟨rfl, rfl⟩) fun _ => grows_volume _)
  | inspect name useCache => exact absurd rfl (h name useCache)
  | remove name force => exact steady_named fun v => steady_ofAct (grows_removeVolume v force)
  | clone name as => exact steady_named fun _ => steady_of_eq fun _ => ⟨rfl, rfl⟩
  | client name =>
      exact steady_named fun v => steady_ofAct (bind (grows_volume v) fun _ => grows_hostOf)
  | list client filters => exact steady_via fun c => steady_ofAct (grows_listVolumes c filters)
  | find client filters name =>
      exact steady_via fun c => steady_ofAct (grows_findVolume c filters name)

theorem steady_onTeardown (step : TeardownStep) : Steady (onTeardown sr step) := by
  cases step with
  | tryRemove r => exact steady_resource fun r => steady_ofAct (grows_tryRemove r)
  | create as => exact fun s => (grows_dropRegistry _ s).trans (.of_eq rfl rfl)
  | register registry r =>
      exact steady_named fun _ => steady_resource fun r => steady_addSteps registry _
  | defer registry name outcome => exact steady_addSteps registry _
  | registerById registry kind id =>
      -- the client is there before its steps are registered
      refine steady_named fun _ s => ?_
      have hbuild : Grows s ((build sr []).perform s).2 := grows_build [] s
      generalize (build sr []).perform s = built at hbuild
      obtain ⟨_ | c, after⟩ := built
      · exact hbuild
      · exact hbuild.trans (steady_addSteps registry _ after)
  | size registry | «show» registry =>
      exact steady_named fun _ => steady_of_eq fun _ => ⟨rfl, rfl⟩
  | run registry =>
      refine steady_named fun r s => ?_
      have herase := Grows.of_registries s (s.registries.erase registry)
      exact herase.trans (@grows_runRegistry sr r _)
  | drop registry =>
      refine steady_named fun r s => ?_
      have herase := Grows.of_registries s (s.registries.erase registry)
      exact herase.trans (grows_dropRegistry r _)
  | scope resources body =>
      intro s
      have hscope : Grows s (scope sr
          (fun s => ((body, resources.map fun r => stepOf s (.standIn r)), s)) s).2 :=
        grows_scope (fun s => .refl s) s
      exact hscope

theorem steady_withTimeout (limit : Nat) (work : Option Nat) (outcome : Except Error Json.Value) :
    Steady (withTimeout limit work outcome) := by
  intro s
  unfold withTimeout
  dsimp only
  split
  · split <;> exact .of_eq rfl rfl
  · exact .of_eq rfl rfl

/-- The session without the events of earlier steps. -/
def cleared (s : Session) : Session := { s with scene := { s.scene with events := [] } }

theorem grows_cleared (s : Session) : Grows s s.cleared := .of_eq rfl rfl

/-- **Only inspections change what is held of a resource.** -/
theorem steady_effect {step : Step}
    (hn : ∀ name useCache verbose scope,
      step ≠ .networks (.inspect name useCache verbose scope))
    (hv : ∀ name useCache, step ≠ .volumes (.inspect name useCache)) : Steady (effect sr step) := by
  cases step with
  | clients step => exact steady_onClients step
  | networks step =>
      exact steady_onNetworks fun name useCache verbose scope h =>
        hn name useCache verbose scope (by rw [h])
  | volumes step => exact steady_onVolumes fun name useCache h => hv name useCache (by rw [h])
  | teardown step => exact steady_onTeardown step
  | withTimeout limit work outcome => exact steady_withTimeout limit work outcome

end Session

end DockerClient
