import DockerClient.Session.Clients

/-
**Networks and volumes in a session.**

* `Session.createNetwork`, `Session.inspectNetwork`, `Session.removeNetwork` — one network;
* `Session.listNetworks`, `Session.findNetworkById`, `Session.findNetworkByName` — all networks;
* the same for volumes;
* `Session.removeById` — removes a resource without a handle to it.

A resource does not keep its client alive.
-/

set_option relaxedAutoImplicit false
set_option autoImplicit false

namespace DockerClient.Session

/-! ### Common steps -/

/-- The operation with a message around its error. -/
def within {α : Type} (text : String) (act : Act α) : Act α :=
  tryCatch act fun e => throw (e.addContext text)

/-- What is said before the first query for a record. -/
def notInspected : String := "resource not inspected yet, inspecting now"

/-- Makes a call over a client that is not held, if it lives and is open. -/
def callWeakly {α : Type} (sr : Surroundings) (c : Nat) (what : Call α) : Act α := do
  call sr (← upgrade c) what

/-- Fetches a record over a client that is not held. -/
def fetchWeakly {α : Type} (sr : Surroundings) (c : Nat) (what : Call α) : Act (Fetched α) := do
  Act.number (← callWeakly sr c what)

/-- The query of an inspection; the first says that no record is there yet. -/
def saying {α : Type} (cache : InspectCache (Fetched α)) (query : Act (Fetched α)) :
    Act (Fetched α) := do
  if cache.needsWarning then Act.note (.warned notInspected)
  query

/-- What an inspection leads to in a session. -/
def inspection {α : Type} (isNamed : α → Bool) (useCache : Bool)
    (cache : InspectCache (Fetched α)) (query : Act (Fetched α)) (s : Session) :
    InspectCache.Inspection (Fetched α) Session Error :=
  cache.inspect (fun f => isNamed f.record) useCache (saying cache query).perform s

/-- An inspection whose cache is put back by the given function. -/
def inspectWith {α : Type} (isNamed : α → Bool) (useCache : Bool)
    (cache : InspectCache (Fetched α)) (query : Act (Fetched α))
    (putBack : InspectCache (Fetched α) → Session → Session) : Act (Fetched α) :=
  ExceptT.mk fun s =>
    let done := inspection isNamed useCache cache query s
    (done.result, putBack done.cache done.after)

/-! ### Networks -/

/-- A network of the session. -/
def network (n : Nat) : Act NetworkCell := do
  match (← get).networks[n]? with
  | some cell => pure cell
  | none => throw .closed

/-- Adds a network and gives it its number. -/
def addNetwork (cell : NetworkCell) : Act Nat :=
  ExceptT.mk fun s => (.ok s.networks.length, { s with networks := s.networks ++ [cell] })

/-- Passes a warning of the daemon on, unless it is empty. -/
def passOn (warning : String) : Act Unit :=
  if warning = "" then pure () else Act.note (.warned warning)

/-- Creates a network; it needs a name. -/
def createNetwork (sr : Surroundings) (client : Option Nat) (draft : NetworkDraft) :
    Act Nat := do
  if draft.name = "" then throw (.invalidArgument .emptyNetworkName)
  let c ← clientOrShared sr client
  let receipt ← call sr c (Call.createNetwork draft.labelled)
  passOn receipt.warning
  addNetwork { draft := draft.labelled, receipt := receipt, client := c }

/-- Puts the last record of a network back. -/
def keepNetwork (n : Nat) (cache : InspectCache (Fetched NetworkRecord)) (s : Session) : Session :=
  { s with networks := s.networks.modify n fun cell => { cell with cache := cache } }

/-- The record of a network. -/
def inspectNetwork (sr : Surroundings) (n : Nat) (useCache verbose : Bool)
    (scope : Option String) : Act (Fetched NetworkRecord) := do
  let held ← network n
  inspectWith NetworkRecord.isNamed useCache held.cache
    (fetchWeakly sr held.client (Call.inspectNetwork held.receipt.id verbose scope))
    (keepNetwork n)

/-- Removes the network with an identifier. -/
def removeNetworkById (sr : Surroundings) (c : Nat) (id : String) : Act Unit := do
  let l ← link c
  within ("terminating network " ++ id)
    (Act.inScene fun scene => scene.call sr.listens l (Call.removeNetwork id))

/-- Removes a network. -/
def removeNetwork (sr : Surroundings) (n : Nat) : Act Unit := do
  let held ← network n
  removeNetworkById sr (← upgrade held.client) held.receipt.id

/-- The networks that meet conditions. -/
def listNetworks (sr : Surroundings) (client : Option Nat) (filters : Filters) :
    Act (List NetworkRecord) := do
  let c ← clientOrShared sr client
  call sr c (Call.listNetworks filters)

/-- The first network whose identifier begins in a given way. -/
def findNetworkById (sr : Surroundings) (client : Option Nat) (filters : Filters)
    (id : String) : Act NetworkRecord := do
  let found ← listNetworks sr client (filters.add "id" id)
  match found.find? fun r => r.id.any fun known => (Text.after? id known).isSome with
  | some r => pure r
  | none => throw (.notFound ("network with ID " ++ id))

/-- The first network with a name. -/
def findNetworkByName (sr : Surroundings) (client : Option Nat) (filters : Filters)
    (name : String) : Act NetworkRecord := do
  let found ← listNetworks sr client (filters.add "name" name)
  match found.find? fun r => r.name == some name with
  | some r => pure r
  | none => throw (.notFound ("network named " ++ name))

/-! ### Volumes -/

/-- A volume of the session. -/
def volume (v : Nat) : Act VolumeCell := do
  match (← get).volumes[v]? with
  | some cell => pure cell
  | none => throw .closed

/-- Adds a volume and gives it its number. -/
def addVolume (cell : VolumeCell) : Act Nat :=
  ExceptT.mk fun s => (.ok s.volumes.length, { s with volumes := s.volumes ++ [cell] })

/-- Creates a volume. -/
def createVolume (sr : Surroundings) (client : Option Nat) (draft : VolumeDraft) : Act Nat := do
  let c ← clientOrShared sr client
  let receipt ← call sr c (Call.createVolume draft)
  addVolume { receipt := receipt, client := c }

/-- Puts the last record of a volume back. -/
def keepVolume (v : Nat) (cache : InspectCache (Fetched VolumeRecord)) (s : Session) : Session :=
  { s with volumes := s.volumes.modify v fun cell => { cell with cache := cache } }

/-- The record of a volume. -/
def inspectVolume (sr : Surroundings) (v : Nat) (useCache : Bool) :
    Act (Fetched VolumeRecord) := do
  let held ← volume v
  inspectWith VolumeRecord.isNamed useCache held.cache
    (fetchWeakly sr held.client (Call.inspectVolume held.receipt.name))
    (keepVolume v)

/-- Removes the volume with a name. -/
def removeVolumeByName (sr : Surroundings) (c : Nat) (name : String) (force : Bool) :
    Act Unit := do
  let l ← link c
  within ("terminating volume " ++ name)
    (Act.inScene fun scene => scene.call sr.listens l (Call.removeVolume name force))

/-- Removes a volume. -/
def removeVolume (sr : Surroundings) (v : Nat) (force : Bool) : Act Unit := do
  let held ← volume v
  removeVolumeByName sr (← upgrade held.client) held.receipt.name force

/-- Notes warnings of the daemon about a list. -/
def passOnAll : List String → Act Unit
  | [] => pure ()
  | w :: rest => do
      Act.note (.warned ("listing volumes: " ++ w))
      passOnAll rest

/-- The volumes that meet conditions. -/
def listVolumes (sr : Surroundings) (client : Option Nat) (filters : Filters) :
    Act (List VolumeRecord) := do
  let c ← clientOrShared sr client
  let found ← call sr c (Call.listVolumes filters)
  passOnAll found.warnings
  pure found.volumes

/-- The first volume with a name. -/
def findVolume (sr : Surroundings) (client : Option Nat) (filters : Filters) (name : String) :
    Act VolumeRecord := do
  let found ← listVolumes sr client (filters.add "name" name)
  match found.find? fun r => r.name == name with
  | some r => pure r
  | none => throw (.notFound ("volume " ++ name))

/-! ### Removal without a handle -/

/-- Removes a resource of a kind. -/
def removeById (sr : Surroundings) (c : Nat) (kind : ResourceKind) (id : String) : Act Unit :=
  match kind with
  | .network => removeNetworkById sr c id
  | .volume => removeVolumeByName sr c id false

end DockerClient.Session
