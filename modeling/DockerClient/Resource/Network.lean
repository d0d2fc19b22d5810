import DockerClient.Resource.Kind

/-
**Networks.**

* `NetworkRecord` — what the daemon knows of a network, as far as it says;
* `NetworkDraft`, `NetworkDraft.labelled` — what a network is to be, with the provenance labels;
* `NetworkReceipt` — the daemon's answer to a creation;
* `Call.createNetwork`, `Call.inspectNetwork`, `Call.inspectBridge`, `Call.removeNetwork`,
  `Call.listNetworks` — the calls;
* `NetworkRecord.gateway?` — the gateway of the first configuration that names one.
-/

set_option relaxedAutoImplicit false
set_option autoImplicit false

namespace DockerClient

/-! ### Records -/

/-- What the daemon knows of a network.  The gateways are those of its address configurations. -/
structure NetworkRecord where
  id : Option String
  name : Option String
  driver : Option String
  scope : Option String
  internal : Option Bool
  labels : Option (Table String)
  gateways : List (Option String)

namespace NetworkRecord

/-- The gateway in an address configuration. -/
def gatewayOfRaw? (raw : Json.Raw) : Option (Option String) :=
  match Json.Record.object? ["Gateway"] raw with
  | some ([gateway], _) => Json.optional Json.Raw.string? gateway
  | _ => none

/-- The gateways in the address settings. -/
def gatewaysOfRaw? (raw : Json.Raw) : Option (List (Option String)) :=
  match Json.Record.object? ["Config"] raw with
  | some ([config], _) =>
      (Json.optional (Json.Raw.list? gatewayOfRaw?) config).map (·.getD [])
  | _ => none

/-- What a written value says of a network. -/
def ofRaw? (raw : Json.Raw) : Option NetworkRecord :=
  match Json.Record.object? ["Id", "Name", "Driver", "Scope", "Internal", "Labels", "IPAM"] raw with
  | some ([id, name, driver, scope, internal, labels, addresses], _) => do
      let id ← Json.optional Json.Raw.string? id
      let name ← Json.optional Json.Raw.string? name
      let driver ← Json.optional Json.Raw.string? driver
      let scope ← Json.optional Json.Raw.string? scope
      let internal ← Json.optional Json.Raw.bool? internal
      let labels ← Json.optional (Json.Raw.table? Json.Raw.string?) labels
      let gateways ← Json.optional gatewaysOfRaw? addresses
      some ⟨id, name, driver, scope, internal, labels, gateways.getD []⟩
  | _ => none

/-- Whether the record says which network it is about. -/
def isNamed (r : NetworkRecord) : Bool := r.id.any (· ≠ "")

/-- The gateway of the first address configuration that names one. -/
def gateway? (r : NetworkRecord) : Option String := r.gateways.findSome? fun g => g

end NetworkRecord

/-! ### Creation -/

/-- A range of addresses. -/
structure AddressRange where
  subnet : Option String := none
  gateway : Option String := none
deriving DecidableEq, Repr

/-- How addresses are given out. -/
structure AddressSettings where
  driver : Option String := none
  ranges : Option (List AddressRange) := none
deriving DecidableEq, Repr

/-- What a network is to be. -/
structure NetworkDraft where
  name : String
  driver : Option String := none
  internal : Bool := false
  attachable : Bool := false
  enableIpv6 : Bool := false
  options : Table String := Table.empty
  labels : Table String := Table.empty
  addresses : AddressSettings := {}

/-- The daemon's answer to a creation: an identifier, and a warning unless it is empty. -/
structure NetworkReceipt where
  id : String
  warning : String
deriving DecidableEq, Repr

/-- The driver of networks that name none. -/
def NetworkDraft.defaultDriver : String := "bridge"

/-- The draft with the provenance labels. -/
def NetworkDraft.labelled (draft : NetworkDraft) : NetworkDraft :=
  { draft with labels := Labels.merge draft.labels Labels.network Labels.currentVersion }

/-- The members of an object of which the absent ones are left out. -/
def presentMembers (members : List (String × Option Json.Value)) : Json.Value :=
  Json.Value.ofMembers (members.filterMap fun m => m.2.map (m.1, ·))

/-- The written form of a range of addresses. -/
def AddressRange.toValue (r : AddressRange) : Json.Value :=
  presentMembers [("Subnet", r.subnet.map textValue), ("Gateway", r.gateway.map textValue)]

/-- The written form of address settings. -/
def AddressSettings.toValue (s : AddressSettings) : Json.Value :=
  presentMembers
    [("Driver", s.driver.map textValue),
     ("Config", s.ranges.map fun rs => .array (rs.map AddressRange.toValue))]

/-- The written form of a draft. -/
def NetworkDraft.toValue (d : NetworkDraft) : Json.Value :=
  Json.Value.ofMembers
    [("Name", .string d.name), ("CheckDuplicate", .bool true),
     ("Driver", .string (d.driver.getD NetworkDraft.defaultDriver)),
     ("Internal", .bool d.internal), ("Attachable", .bool d.attachable), ("Ingress", .bool false),
     ("IPAM", d.addresses.toValue), ("EnableIPv6", .bool d.enableIpv6),
     ("Options", tableValue d.options), ("Labels", tableValue d.labels)]

/-- The answer to a creation that a written value is. -/
def NetworkReceipt.ofRaw? (raw : Json.Raw) : Option NetworkReceipt :=
  match Json.Record.all? ["Id", "Warning"] raw with
  | some [id, warning] => do
      let id ← Json.required Json.Raw.string? id
      let warning ← Json.required Json.Raw.string? warning
      some ⟨id, warning⟩
  | _ => none

/-! ### Calls -/

namespace Call

/-- The path of a network. -/
def networkPath (id : String) : String := "/networks/" ++ id

/-- Creates a network. -/
def createNetwork (draft : NetworkDraft) : Call NetworkReceipt :=
  ⟨⟨.post, "/networks/create", none, some draft.toValue⟩, json NetworkReceipt.ofRaw?⟩

/-- Asks for the record of a network. -/
def inspectNetwork (id : String) (verbose : Bool) (scope : Option String) : Call NetworkRecord :=
  ⟨⟨.get, networkPath id,
      some [("verbose", Request.flagText verbose), ("scope", scope.getD "")], none⟩,
    json NetworkRecord.ofRaw?⟩

/-- The network that containers are in which name none. -/
def bridge : String := "bridge"

/-- Asks for the record of the network that containers are in which name none. -/
def inspectBridge : Call NetworkRecord :=
  ⟨⟨.get, networkPath bridge, none, none⟩, json NetworkRecord.ofRaw?⟩

/-- Removes a network. -/
def removeNetwork (id : String) : Call Unit :=
  ⟨⟨.delete, networkPath id, none, none⟩, fun _ => some ()⟩

/-- Asks for the records of all networks that meet conditions. -/
def listNetworks (filters : Filters) : Call (List NetworkRecord) :=
  ⟨⟨.get, "/networks", some filters.query, none⟩,
    json (Json.Raw.list? NetworkRecord.ofRaw?)⟩

end Call

end DockerClient
