import DockerClient.Proofs.DaemonHosts
import DockerClient.Proofs.WrittenRecords

/-
**Which gateway a client in a container takes for its host.**

In a container the host is reached at a gateway of the bridge network, whose address settings may
name several, or none, or empty ones.  What one wants is the first gateway that is not empty.  What
is taken is the first one that is given, and whether it is empty is looked at only then; so an empty
gateway in front of the others hides them.

* `NetworkRecord.WritesGateways`, `NetworkRecord.writesGateways_of_ofRaw?` — **the gateways that are
  written** in a record, at three levels that may each be missing;
* `NetworkRecord.given` — the gateways that are given, which may be empty;
* `DaemonHost.Promised`, `DaemonHost.Taken` — **the host that is wanted**, and the host that is
  taken;
* `DaemonHost.promised_iff_of_taken` — they differ exactly where an empty gateway hides another;
* `Session.daemonHost_of_bridge` — **what a client in a container finds**;
* `Session.daemonHost_hides_gateway` — a gateway that is hidden.
-/

set_option relaxedAutoImplicit false
set_option autoImplicit false

namespace DockerClient

open Json (Raw)

/-! ### The gateways that are written -/

namespace NetworkRecord

/-- The gateways in address settings: those of their configurations, in their order. -/
def WritesSettings (raw : Raw) (gateways : List (Option String)) : Prop :=
  ∃ configs, Json.OptionalField
      (Json.ListIs (Json.OptionalField (Json.ReadAs Raw.string?) "Gateway")) "Config" raw configs ∧
    gateways = configs.getD []

/-- **The gateways that are written** in a record: those of its address settings. -/
def WritesGateways (raw : Raw) (gateways : List (Option String)) : Prop :=
  ∃ settings, Json.OptionalField WritesSettings "IPAM" raw settings ∧ gateways = settings.getD []

/-- The gateway of a configuration is read as it is written. -/
theorem readAs_gatewayOfRaw? :
    Json.ReadAs gatewayOfRaw? = Json.OptionalField (Json.ReadAs Raw.string?) "Gateway" := by
  funext raw gateway
  rw [eq_iff_iff, Json.optionalField_iff, Json.ReadAs, gatewayOfRaw?]
  split
  · rename_i field rest hobject
    simp [hobject]
  · rename_i hobject
    simp only [reduceCtorEq, false_iff]
    rintro ⟨field, rest, hfield, -⟩
    exact hobject field rest hfield

theorem readAs_list? : Json.ReadAs (Raw.list? gatewayOfRaw?) =
    Json.ListIs (Json.OptionalField (Json.ReadAs Raw.string?) "Gateway") := by
  rw [← readAs_gatewayOfRaw?]
  exact funext fun _ => funext fun _ => propext Raw.list?_eq_some_iff

/-- The gateways in address settings are read as they are written. -/
theorem readAs_gatewaysOfRaw? : Json.ReadAs gatewaysOfRaw? = WritesSettings := by
  funext raw gateways
  rw [eq_iff_iff, WritesSettings, ← readAs_list?, Json.ReadAs, gatewaysOfRaw?]
  simp only [Json.optionalField_iff]
  split
  · rename_i config rest hobject
    rw [Option.map_eq_some_iff]
    constructor
    · rintro ⟨configs, hconfigs, rfl⟩
      exact ⟨configs, ⟨config, rest, hobject, hconfigs⟩, rfl⟩
    · rintro ⟨configs, ⟨field, rest', hfield, hconfigs⟩, rfl⟩
      cases hobject.symm.trans hfield
      exact ⟨configs, hconfigs, rfl⟩
  · rename_i hobject
    simp only [reduceCtorEq, false_iff]
    rintro ⟨configs, ⟨config, rest, hconfig, -⟩, -⟩
    exact hobject config rest hconfig

/-- **The gateways of a record are those that are written in it.** -/
theorem writesGateways_of_ofRaw? {raw : Raw} {record : NetworkRecord}
    (h : ofRaw? raw = some record) : WritesGateways raw record.gateways := by
  unfold ofRaw? at h
  split at h
  · rename_i id name driver scope internal labels addresses rest hobject
    obtain ⟨members, named, rfl, hnamed, hfields⟩ := Json.Record.exists_members_of_object? hobject
    simp only [List.forall₂_cons] at hfields
    obtain ⟨-, -, -, -, -, -, haddresses, -⟩ := hfields
    -- the fields before the address settings do not matter
    iterate 6 obtain ⟨_, -, h⟩ := Option.bind_eq_some_iff.mp h
    obtain ⟨settings, hsettings, h⟩ := Option.bind_eq_some_iff.mp h
    cases h
    refine ⟨settings, .object hnamed ?_, rfl⟩
    rw [← readAs_gatewaysOfRaw?]
    exact Json.fieldIs_iff_optional.mpr ⟨addresses, haddresses, hsettings⟩
  · cases h

/-- The gateways that are given in a record, in the order of its configurations. -/
def given (record : NetworkRecord) : List String := record.gateways.filterMap fun g => g

/-- The gateway of a record is the first that is given. -/
theorem gateway?_eq_head? (record : NetworkRecord) : record.gateway? = record.given.head? := by
  rw [given, List.head?_filterMap]
  rfl

end NetworkRecord

/-! ### The host that is wanted -/

namespace DaemonHost

/-- **The host that is wanted** of given gateways: the first one that is not empty, and without one
the machine itself. -/
inductive Promised (given : List String) : String → Prop
  | gateway {before after : List String} {g : String} (hgiven : given = before ++ g :: after)
      (hg : g ≠ "") (hbefore : ∀ x ∈ before, x = "") : Promised given g
  | fallback (hempty : ∀ x ∈ given, x = "") : Promised given localHost

/-- **The host that is taken** of given gateways, and the scene after it: the first one, and if that
is empty or missing the machine itself, with a warning that there was none. -/
inductive Taken (s : Scene) : List String → String → Scene → Prop
  | first {g : String} {rest : List String} (hg : g ≠ "") : Taken s (g :: rest) g s
  | empty {rest : List String} : Taken s ("" :: rest) localHost (s.note (.warned noGateway))
  | missing : Taken s [] localHost (s.note (.warned noGateway))

/-- A gateway is hidden by an empty one that is given first. -/
def Hides (given : List String) (g : String) : Prop :=
  ∃ between after, given = "" :: (between ++ g :: after) ∧ g ≠ "" ∧ ∀ x ∈ between, x = ""

/-- The first gateway that is not empty. -/
theorem find?_nonempty_iff {given : List String} {g : String} :
    given.find? (· ≠ "") = some g ↔
      ∃ before after, given = before ++ g :: after ∧ g ≠ "" ∧ ∀ x ∈ before, x = "" := by
  rw [List.find?_eq_some_iff_append]
  constructor
  · rintro ⟨hg, before, after, rfl, hbefore⟩
    exact ⟨before, after, rfl, by simpa using hg, fun x hx => by simpa using hbefore x hx⟩
  · rintro ⟨before, after, rfl, hg, hbefore⟩
    exact ⟨by simpa using hg, before, after, rfl, fun x hx => by simpa using hbefore x hx⟩

theorem promised_iff {given : List String} {host : String} :
    Promised given host ↔ (given.find? (· ≠ "")).getD localHost = host := by
  cases hfind : given.find? (· ≠ "") with
  | some g =>
      obtain ⟨before, after, hgiven, hg, hbefore⟩ := find?_nonempty_iff.mp hfind
      constructor
      · rintro (⟨hgiven', hhost, hbefore'⟩ | hempty)
        · rw [find?_nonempty_iff.mpr ⟨_, _, hgiven', hhost, hbefore'⟩] at hfind
          exact (Option.some.inj hfind).symm
        · exact absurd (hempty g (by rw [hgiven]; simp)) hg
      · rintro rfl
        exact .gateway hgiven hg hbefore
  | none =>
      have hempty : ∀ x ∈ given, x = "" := fun x hx => by
        simpa using List.find?_eq_none.mp hfind x hx
      constructor
      · rintro (⟨hgiven, hhost, -⟩ | -)
        · exact absurd (hempty host (by rw [hgiven]; simp)) hhost
        · rfl
      · rintro rfl
        exact .fallback hempty

theorem hides_iff {rest : List String} {g : String} :
    Hides ("" :: rest) g ↔ rest.find? (· ≠ "") = some g := by
  rw [find?_nonempty_iff, Hides]
  simp only [List.cons.injEq, true_and]

/-- **The host that is taken is the one that is wanted**, unless an empty gateway hides another. -/
theorem promised_iff_of_taken {s t : Scene} {given : List String} {host : String}
    (h : Taken s given host t) : Promised given host ↔ ∀ g, Hides given g → g = localHost := by
  rw [promised_iff]
  cases h with
  | first hg =>
      refine iff_of_true (by simp [hg]) ?_
      rintro g ⟨between, after, hgiven, -⟩
      exact absurd (List.cons.inj hgiven).1 hg
  | @empty rest =>
      have hskip : ("" :: rest).find? (· ≠ "") = rest.find? (· ≠ "") :=
        List.find?_cons_of_neg (by simp)
      simp only [hskip, hides_iff]
      cases rest.find? (· ≠ "") with
      | none => exact iff_of_true rfl nofun
      | some g => simp
  | missing =>
      refine iff_of_true rfl ?_
      rintro g ⟨between, after, hgiven, -⟩
      cases hgiven

theorem ofBridge_eq (record : NetworkRecord) :
    ofBridge record = record.given.head?.filter (· ≠ "") := by
  rw [ofBridge, NetworkRecord.gateway?_eq_head?]

/-- A host is taken of the gateways that the record of the bridge network gives. -/
theorem taken_of_fromBridge {listens : Route → Bool} {link : Link} {s after : Scene}
    {record : NetworkRecord} (h : s.call listens link Call.inspectBridge = (.ok record, after)) :
    ∃ host t, fromBridge listens link s = (.ok host, t) ∧ Taken after record.given host t := by
  unfold fromBridge
  rw [h]
  dsimp only
  rw [ofBridge_eq]
  cases record.given with
  | nil => exact ⟨_, _, rfl, .missing⟩
  | cons g rest =>
      by_cases hg : g = ""
      · subst hg
        exact ⟨_, _, rfl, .empty⟩
      · have hfilter : (g :: rest).head?.filter (· ≠ "") = some g := by simp [hg]
        rw [hfilter]
        exact ⟨_, _, rfl, .first hg⟩

/-- An endpoint on the same machine is known by its scheme. -/
theorem place?_of_localScheme {scheme : String} (h : scheme ∈ localSchemes) (path : String) :
    place? (scheme ++ "://" ++ path) = some .sameMachine := by
  obtain ⟨hcolon, htcp⟩ :
      ':' ∉ scheme.toList ∧ Endpoint.tcpSchemes.contains scheme = false := by
    simp only [localSchemes, List.mem_cons, List.not_mem_nil, or_false] at h
    rcases h with rfl | rfl <;> decide
  simp only [place?, Endpoint.schemeAndRest_append hcolon, htcp, List.contains_iff_mem.mpr h,
    Bool.false_eq_true, if_false, if_true]

end DaemonHost

/-! ### Clients in containers -/

/-- A call that succeeds got a response that could be read. -/
theorem Scene.response_of_call {α : Type} {listens : Route → Bool} {l : Link} {what : Call α}
    {s after : Scene} {a : α} (h : s.call listens l what = (.ok a, after)) :
    ∃ response, s.exchange listens l what.request = (.ok response, after) ∧
      response.isSuccess = true ∧ what.decode response.body = some a := by
  unfold call at h
  rcases hexchange : s.exchange listens l what.request with ⟨_ | response, t⟩
  · rw [hexchange] at h
    cases h
  · rw [hexchange] at h
    dsimp only at h
    cases hread : what.read response with
    | error fault =>
        rw [hread] at h
        cases h
    | ok value =>
        rw [hread] at h
        cases h
        obtain ⟨hsuccess, hdecode⟩ := (what.read_ok_iff response a).mp hread
        exact ⟨response, rfl, hsuccess, hdecode⟩

/-- A body that is read as a value is written as one. -/
theorem Call.exists_raw_of_json {α : Type} {f : Raw → Option α} {body : List UInt8} {a : α}
    (h : json f body = some a) : ∃ raw, Raw.read body = .ok raw ∧ f raw = some a := by
  unfold json at h
  split at h
  · exact ⟨_, ‹_›, h⟩
  · cases h

namespace Session

variable {sr : Surroundings} {c : Nat} {s : Session} {held : ClientCell}

/-- **What a client in a container finds**, if it is open, its daemon is on the same machine and the
daemon describes its bridge network: the host that is taken of the gateways that are written.  It is
the one that is wanted exactly if no empty gateway hides another. -/
theorem daemonHost_of_bridge (h : s.clients[c]? = some held) {l : Link}
    (hl : held.state.link = some l) {scheme path : String} (hscheme : scheme ∈ ["unix", "npipe"])
    (hendpoint : held.endpoint.host = scheme ++ "://" ++ path)
    (hcontainer : sr.world.inContainer = true) {record : NetworkRecord} {after : Scene}
    (hcall : s.scene.call sr.listens l Call.inspectBridge = (.ok record, after)) :
    (∃ response raw,
      s.scene.exchange sr.listens l Call.inspectBridge.request = (.ok response, after) ∧
      response.isSuccess = true ∧ Raw.read response.body = .ok raw ∧
      NetworkRecord.WritesGateways raw record.gateways) ∧
    ∃ host t, (daemonHost sr c).perform s = (.ok host, { s with scene := t }) ∧
      DaemonHost.Taken after record.given host t ∧
      (DaemonHost.Promised record.given host ↔
        ∀ g, DaemonHost.Hides record.given g → g = DaemonHost.localHost) := by
  constructor
  · obtain ⟨response, hexchange, hsuccess, hdecode⟩ := Scene.response_of_call hcall
    obtain ⟨raw, hread, hrecord⟩ := Call.exists_raw_of_json hdecode
    exact ⟨response, raw, hexchange, hsuccess, hread,
      NetworkRecord.writesGateways_of_ofRaw? hrecord⟩
  · obtain ⟨host, t, hbridge, htaken⟩ := DaemonHost.taken_of_fromBridge hcall
    refine ⟨host, t, ?_, htaken, DaemonHost.promised_iff_of_taken htaken⟩
    rw [perform_daemonHost h, hendpoint]
    simp only [DaemonHost.find, DaemonHost.place?_of_localScheme hscheme, hcontainer, if_true,
      linkOf, hl, hbridge]

/-- A session with an open client on the machine of its daemon, which describes the bridge
network. -/
def describingBridge (record : String) : Session where
  scene.replies := [.respond ⟨200, Text.encode record⟩]
  clients := [⟨.plain "unix:///var/run/docker.sock", .default, [], ⟨none⟩, .opened (.given 0)⟩]

/-- The surroundings of a container. -/
def container : Surroundings where
  world := { env := .ofList [], home := none, files := .none, inContainer := true }
  listens _ := true

/-- A configuration without a gateway is passed over, and the gateway of the next one is taken. -/
theorem daemonHost_of_bridge_second :
    let s := describingBridge
      "\x7b\"IPAM\":\x7b\"Config\":[\x7b\x7d,\x7b\"Gateway\":\"172.18.0.1\"\x7d]\x7d\x7d"
    ∃ record after host t,
      s.scene.call container.listens (.given 0) Call.inspectBridge = (.ok record, after) ∧
      record.gateways = [none, some "172.18.0.1"] ∧
      (daemonHost container 0).perform s = (.ok host, { s with scene := t }) ∧
      DaemonHost.Promised record.given host := by
  intro s
  have hcall : ∃ record after,
      s.scene.call container.listens (.given 0) Call.inspectBridge = (.ok record, after) ∧
      record.gateways = [none, some "172.18.0.1"] := ⟨_, _, rfl, rfl⟩
  obtain ⟨record, after, hcall, hgateways⟩ := hcall
  have hendpoint : "unix:///var/run/docker.sock" = "unix" ++ "://" ++ "/var/run/docker.sock" := rfl
  have hgiven : record.given = ["172.18.0.1"] := by rw [NetworkRecord.given, hgateways]; rfl
  obtain ⟨-, host, t, hperform, -, hpromised⟩ :=
    daemonHost_of_bridge (s := s) (c := 0) rfl rfl (by decide) hendpoint rfl hcall
  refine ⟨record, after, host, t, hcall, hgateways, hperform, hpromised.mpr ?_⟩
  rintro g ⟨between, rest, hhides, -⟩
  rw [hgiven] at hhides
  exact absurd (List.cons.inj hhides).1 (by decide)

/-- **An empty gateway hides the one that could be used**, so the client takes its own machine for
the host. -/
theorem daemonHost_hides_gateway :
    let s := describingBridge
      ("\x7b\"IPAM\":\x7b\"Config\":"
        ++ "[\x7b\"Gateway\":\"\"\x7d,\x7b\"Gateway\":\"172.17.0.1\"\x7d]\x7d\x7d")
    (∃ record after,
      s.scene.call container.listens (.given 0) Call.inspectBridge = (.ok record, after) ∧
      record.gateways = [some "", some "172.17.0.1"] ∧
      ¬DaemonHost.Promised record.given "localhost") ∧
    ((daemonHost container 0).perform s).1 = .ok "localhost" := by
  intro s
  have hcall : ∃ record after,
      s.scene.call container.listens (.given 0) Call.inspectBridge = (.ok record, after) ∧
      record.gateways = [some "", some "172.17.0.1"] := ⟨_, _, rfl, rfl⟩
  obtain ⟨record, after, hcall, hgateways⟩ := hcall
  refine ⟨⟨record, after, hcall, hgateways, ?_⟩, rfl⟩
  have hgiven : record.given = ["", "172.17.0.1"] := by rw [NetworkRecord.given, hgateways]; rfl
  rw [DaemonHost.promised_iff, hgiven]
  decide

end Session

end DockerClient
