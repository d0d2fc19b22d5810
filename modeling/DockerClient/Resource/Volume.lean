import DockerClient.Resource.Kind

/-
**Volumes.**

* `VolumeRecord` — what the daemon knows of a volume;
* `VolumeDraft` — what a volume is to be; its labels get the provenance labels;
* `VolumeList` — a list of volumes with the daemon's warnings;
* `Call.createVolume`, `Call.inspectVolume`, `Call.removeVolume`, `Call.listVolumes` — the calls.
-/

set_option relaxedAutoImplicit false
set_option autoImplicit false

namespace DockerClient

/-! ### Records -/

/-- What the daemon knows of a volume. -/
structure VolumeRecord where
  name : String
  driver : String
  mountpoint : String
  labels : Table String
  options : Table String

namespace VolumeRecord

/-- A table of texts, for which null stands if it is empty. -/
def tableOrNull? : Json.Raw → Option (Table String)
  | .null => some Table.empty
  | raw => Json.Raw.table? Json.Raw.string? raw

/-- Whether a written value is a scope that a volume can have. -/
def isScope : Json.Raw → Option Unit
  | .null => some ()
  | raw =>
      match raw.string? with
      | some s => if s = "local" ∨ s = "global" ∨ s = "" then some () else none
      | none => none

/-- What a written value says of a volume. -/
def ofRaw? (raw : Json.Raw) : Option VolumeRecord :=
  match Json.Record.object? ["Name", "Driver", "Mountpoint", "Labels", "Options", "Scope"] raw with
  | some ([name, driver, mountpoint, labels, options, scope], _) => do
      let name ← Json.required Json.Raw.string? name
      let driver ← Json.required Json.Raw.string? driver
      let mountpoint ← Json.required Json.Raw.string? mountpoint
      let labels ← Json.required tableOrNull? labels
      let options ← Json.required tableOrNull? options
      Json.required isScope scope
      some ⟨name, driver, mountpoint, labels, options⟩
  | _ => none

/-- Whether the record says which volume it is about. -/
def isNamed (r : VolumeRecord) : Bool := r.name != ""

end VolumeRecord

/-- A list of volumes with the daemon's warnings. -/
structure VolumeList where
  volumes : List VolumeRecord
  warnings : List String

/-- The list of volumes that a written value is. -/
def VolumeList.ofRaw? (raw : Json.Raw) : Option VolumeList :=
  match Json.Record.all? ["Volumes", "Warnings"] raw with
  | some [volumes, warnings] => do
      let volumes ← Json.optional (Json.Raw.list? VolumeRecord.ofRaw?) volumes
      let warnings ← Json.optional (Json.Raw.list? Json.Raw.string?) warnings
      some ⟨volumes.getD [], warnings.getD []⟩
  | _ => none

/-! ### Creation -/

/-- What a volume is to be; the daemon names one whose name is empty. -/
structure VolumeDraft where
  name : String
  driver : Option String := none
  driverOptions : Table String := Table.empty
  labels : Table String := Table.empty

/-- The driver of volumes that name none. -/
def VolumeDraft.defaultDriver : String := "local"

/-- The written form of a draft, with the provenance labels. -/
def VolumeDraft.toValue (d : VolumeDraft) : Json.Value :=
  Json.Value.ofMembers
    [("Name", .string d.name), ("Driver", .string (d.driver.getD VolumeDraft.defaultDriver)),
     ("DriverOpts", tableValue d.driverOptions),
     ("Labels", tableValue (Labels.merge d.labels Labels.volume Labels.currentVersion))]

/-! ### Calls -/

namespace Call

/-- The path of a volume. -/
def volumePath (name : String) : String := "/volumes/" ++ name

/-- Creates a volume. -/
def createVolume (draft : VolumeDraft) : Call VolumeRecord :=
  ⟨⟨.post, "/volumes/create", none, some draft.toValue⟩, json VolumeRecord.ofRaw?⟩

/-- Asks for the record of a volume. -/
def inspectVolume (name : String) : Call VolumeRecord :=
  ⟨⟨.get, volumePath name, none, none⟩, json VolumeRecord.ofRaw?⟩

/-- Removes a volume, even one that is in use if that is wanted. -/
def removeVolume (name : String) (force : Bool) : Call Unit :=
  ⟨⟨.delete, volumePath name, some [("force", Request.flagText force)], none⟩,
    fun _ => some ()⟩

/-- Asks for the records of all volumes that meet conditions. -/
def listVolumes (filters : Filters) : Call VolumeList :=
  ⟨⟨.get, "/volumes", some filters.query, none⟩, json VolumeList.ofRaw?⟩

end Call

end DockerClient
