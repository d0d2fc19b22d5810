import DockerClient.Proofs.StoredContexts
import DockerClient.Proofs.WrittenRecords
import DockerClient.World.FileTree

/-
**What makes a context usable.**

A stored context has a description of its own, and whatever is wrong with the description makes the
context unusable.  The rules are stated here from the bytes of the description: a record that gives
a name and endpoints, of which one is for the daemon and has a host.

* `EndpointMeta.IsWritten`, `ContextMeta.IsWritten` — **what a description says**, read exactly by
  `EndpointMeta.ofRaw?_eq_some_iff` and `ContextMeta.ofJson?_eq_some_iff`;
* `ContextStore.Complete` — **a description that is complete and the context's own**;
* `ContextStore.Faulty` — what is wrong with a description, fault by fault, and
  `ContextStore.exists_faulty_iff` — a description has a fault or is complete;
* `ContextStore.inspect_eq_contextNotFound_iff`, `ContextStore.inspect_eq_io_iff`,
  `ContextStore.inspect_eq_configInvalid_iff` — one outcome each;
* `ContextStore.inspect_accepts_complete` — **only complete contexts are accepted**, and the other
  outcomes are told apart;
* `ContextStore.inspect_blocked` — a description that is not there because a directory is not one.
-/

set_option relaxedAutoImplicit false
set_option autoImplicit false

namespace DockerClient

open Json (Raw)

/-! ### What a description says -/

/-- **The endpoint that is written**: a host, and whether certificates are not checked. -/
inductive EndpointMeta.IsWritten (raw : Raw) (endpoint : EndpointMeta) : Prop
  | of {named : List (String × Raw)}
      (hmembers : Json.Record.Members ["Host", "SkipTLSVerify"] raw named)
      (hhost : Json.FieldIs (Json.ReadAs Raw.string?) none named "Host" endpoint.host)
      (hskip : Json.FieldIs (Json.ReadAs Raw.bool?) (some false) named "SkipTLSVerify"
        endpoint.skipTlsVerify)

/-- **The description that is written**: a name, and endpoints with names of their own. -/
inductive ContextMeta.IsWritten (bytes : List UInt8) (m : ContextMeta) : Prop
  | of {raw : Raw} {named : List (String × Raw)} (hread : Raw.read bytes = .ok raw)
      (hmembers : Json.Record.Members ["Name", "Endpoints"] raw named)
      (hname : Json.FieldIs (Json.ReadAs Raw.string?) none named "Name" m.name)
      (hendpoints : Json.FieldIs (Json.TableIs EndpointMeta.IsWritten) (some .empty) named
        "Endpoints" m.endpoints)

/-- An endpoint is read exactly as it is written. -/
theorem EndpointMeta.ofRaw?_eq_some_iff {raw : Raw} {endpoint : EndpointMeta} :
    ofRaw? raw = some endpoint ↔ IsWritten raw endpoint := by
  refine (Json.Record.pair_eq_some_iff (by decide) (Json.required Raw.string?)
    (Json.defaulted Raw.bool? false) mk).trans ?_
  simp only [← Json.fieldIs_iff_required, ← Json.fieldIs_iff_defaulted]
  constructor
  · rintro ⟨named, host, skip, hmembers, hhost, hskip, rfl⟩
    exact .of hmembers hhost hskip
  · rintro ⟨hmembers, hhost, hskip⟩
    exact ⟨_, _, _, hmembers, hhost, hskip, rfl⟩

theorem EndpointMeta.readAs_ofRaw? : Json.ReadAs EndpointMeta.ofRaw? = EndpointMeta.IsWritten :=
  funext fun _ => funext fun _ => propext ofRaw?_eq_some_iff

/-- The endpoints of a description are read exactly as they are written. -/
theorem EndpointMeta.readAs_table? :
    Json.ReadAs (Raw.table? EndpointMeta.ofRaw?) = Json.TableIs EndpointMeta.IsWritten := by
  rw [← readAs_ofRaw?]
  exact funext fun _ => funext fun _ => propext Raw.table?_eq_some_iff

theorem ContextMeta.ofRaw?_eq_some_iff {raw : Raw} {m : ContextMeta} :
    ofRaw? raw = some m ↔ ∃ named, Json.Record.Members ["Name", "Endpoints"] raw named ∧
      Json.FieldIs (Json.ReadAs Raw.string?) none named "Name" m.name ∧
      Json.FieldIs (Json.TableIs EndpointMeta.IsWritten) (some .empty) named "Endpoints"
        m.endpoints := by
  refine (Json.Record.pair_eq_some_iff (by decide) (Json.required Raw.string?)
    (Json.defaulted (Raw.table? EndpointMeta.ofRaw?) .empty) mk).trans ?_
  simp only [← Json.fieldIs_iff_required, ← Json.fieldIs_iff_defaulted, EndpointMeta.readAs_table?]
  constructor
  · rintro ⟨named, name, endpoints, hmembers, hname, hendpoints, rfl⟩
    exact ⟨named, hmembers, hname, hendpoints⟩
  · rintro ⟨named, hmembers, hname, hendpoints⟩
    exact ⟨named, _, _, hmembers, hname, hendpoints, rfl⟩

/-- **A description is read exactly as it is written.** -/
theorem ContextMeta.ofJson?_eq_some_iff {bytes : List UInt8} {m : ContextMeta} :
    ofJson? bytes = some m ↔ IsWritten bytes m := by
  constructor
  · intro h
    unfold ofJson? at h
    split at h
    · rename_i raw hread
      obtain ⟨named, hmembers, hname, hendpoints⟩ := ofRaw?_eq_some_iff.mp h
      exact .of hread hmembers hname hendpoints
    · cases h
  · rintro ⟨hread, hmembers, hname, hendpoints⟩
    rw [ofJson?, hread]
    exact ofRaw?_eq_some_iff.mpr ⟨_, hmembers, hname, hendpoints⟩

/-- Nothing else is written where one description is. -/
theorem ContextMeta.IsWritten.unique {bytes : List UInt8} {m m' : ContextMeta}
    (h : IsWritten bytes m) (h' : IsWritten bytes m') : m = m' :=
  Option.some.inj ((ofJson?_eq_some_iff.mpr h).symm.trans (ofJson?_eq_some_iff.mpr h'))

/-! ### Complete descriptions -/

namespace ContextStore

variable {s : ContextStore} {files : Files} {bytes : List UInt8} {name : String}
  {endpoint : EndpointMeta}

/-- **A description that is complete and the context's own**, with the endpoint that it gives. -/
inductive Complete (bytes : List UInt8) (name : String) (endpoint : EndpointMeta) : Prop
  | of {m : ContextMeta} (hwritten : m.IsWritten bytes) (hname : m.name = name)
      (hendpoint : m.endpoints.get? "docker" = some endpoint) (hhost : endpoint.host ≠ "")

/-- **What is wrong with a description**, fault by fault. -/
inductive Faulty (bytes : List UInt8) (name : String) : ConfigFault → Prop
  /-- It is no description. -/
  | unreadable (hunwritten : ∀ m : ContextMeta, ¬m.IsWritten bytes) :
      Faulty bytes name (.unreadable .context bytes)
  /-- It is that of another context. -/
  | otherContext {m : ContextMeta} (hwritten : m.IsWritten bytes) (hname : m.name ≠ name) :
      Faulty bytes name (.otherContext m.name name)
  /-- It has no endpoint for the daemon. -/
  | noDockerEndpoint {m : ContextMeta} (hwritten : m.IsWritten bytes) (hname : m.name = name)
      (hendpoint : m.endpoints.get? "docker" = none) : Faulty bytes name .noDockerEndpoint
  /-- Its endpoint has no host. -/
  | emptyHost {m : ContextMeta} {endpoint : EndpointMeta} (hwritten : m.IsWritten bytes)
      (hname : m.name = name) (hendpoint : m.endpoints.get? "docker" = some endpoint)
      (hhost : endpoint.host = "") : Faulty bytes name .emptyHost

/-- What the store says of a context is what a complete description says. -/
theorem describes_iff : s.Describes files name endpoint ↔
    ∃ bytes, files.read (s.metaFile name) = .ok bytes ∧ Complete bytes name endpoint := by
  constructor
  · rintro ⟨hread, hmeta, hname, hendpoint, hhost⟩
    exact ⟨_, hread, .of (ContextMeta.ofJson?_eq_some_iff.mp hmeta) hname hendpoint hhost⟩
  · rintro ⟨bytes, hread, hwritten, hname, hendpoint, hhost⟩
    exact .of hread (ContextMeta.ofJson?_eq_some_iff.mpr hwritten) hname hendpoint hhost

theorem endpointOf_eq_error_iff {m : ContextMeta} (hwritten : m.IsWritten bytes)
    {fault : ConfigFault} : endpointOf m name = .error fault ↔ Faulty bytes name fault := by
  constructor
  · intro h
    unfold endpointOf at h
    split at h
    · rename_i hname
      cases h
      exact .otherContext hwritten hname
    · rename_i hname
      split at h
      · rename_i hnone
        cases h
        exact .noDockerEndpoint hwritten (not_not.mp hname) hnone
      · rename_i endpoint hendpoint
        split at h
        · rename_i hhost
          cases h
          exact .emptyHost hwritten (not_not.mp hname) hendpoint hhost
        · cases h
  · intro h
    cases h with
    | unreadable hunwritten => exact absurd hwritten (hunwritten m)
    | otherContext hwritten' hname =>
        obtain rfl := hwritten.unique hwritten'
        exact if_pos hname
    | noDockerEndpoint hwritten' hname hnone =>
        obtain rfl := hwritten.unique hwritten'
        rw [endpointOf, if_neg (not_not.mpr hname), hnone]
    | emptyHost hwritten' hname hendpoint hhost =>
        obtain rfl := hwritten.unique hwritten'
        rw [endpointOf, if_neg (not_not.mpr hname), hendpoint]
        exact if_pos hhost

/-- **A description has a fault exactly if it is not complete.** -/
theorem exists_faulty_iff :
    (∃ fault, Faulty bytes name fault) ↔ ∀ endpoint, ¬Complete bytes name endpoint := by
  by_cases hwritten : ∃ m : ContextMeta, m.IsWritten bytes
  · obtain ⟨m, hwritten⟩ := hwritten
    have hcomplete {endpoint : EndpointMeta} :
        Complete bytes name endpoint ↔ endpointOf m name = .ok endpoint := by
      rw [endpointOf_eq_ok_iff]
      constructor
      · rintro ⟨hwritten', hname, hendpoint, hhost⟩
        obtain rfl := hwritten.unique hwritten'
        exact ⟨hname, hendpoint, hhost⟩
      · rintro ⟨hname, hendpoint, hhost⟩
        exact .of hwritten hname hendpoint hhost
    simp only [← endpointOf_eq_error_iff hwritten, hcomplete]
    cases endpointOf m name <;> simp
  · rw [not_exists] at hwritten
    refine iff_of_true ⟨_, .unreadable hwritten⟩ ?_
    rintro endpoint ⟨hwritten', -, -, -⟩
    exact hwritten _ hwritten'

/-! ### One outcome each -/

theorem inspect_of_faulty (hname : name ≠ Context.defaultName)
    (hread : files.read (s.metaFile name) = .ok bytes) {fault : ConfigFault}
    (h : Faulty bytes name fault) :
    s.inspect files name = .error (.configInvalid (s.metaFile name) fault) := by
  simp only [inspect, if_neg hname, hread]
  cases hmeta : ContextMeta.ofJson? bytes with
  | some m =>
      have hfault := (endpointOf_eq_error_iff (ContextMeta.ofJson?_eq_some_iff.mp hmeta)).mpr h
      simp only [hfault]
  | none =>
      cases h with
      | unreadable => rfl
      | otherContext hwritten | noDockerEndpoint hwritten | emptyHost hwritten =>
          rw [ContextMeta.ofJson?_eq_some_iff.mpr hwritten] at hmeta
          cases hmeta

/-- **What becomes of a stored context**, by what is found in the place of its description. -/
theorem inspect_cases (s : ContextStore) (files : Files) (hname : name ≠ Context.defaultName) :
    (files.read (s.metaFile name) = .error .absent ∧
      s.inspect files name = .error (.contextNotFound name (s.metaDir name))) ∨
    (files.read (s.metaFile name) = .error .failed ∧
      s.inspect files name = .error (.io (s.metaFile name))) ∨
    (∃ bytes fault, files.read (s.metaFile name) = .ok bytes ∧ Faulty bytes name fault ∧
      s.inspect files name = .error (.configInvalid (s.metaFile name) fault)) ∨
    ∃ bytes endpoint, files.read (s.metaFile name) = .ok bytes ∧ Complete bytes name endpoint ∧
      s.inspect files name =
        .ok ⟨name, endpoint.host, endpoint.skipTlsVerify, s.tlsDir? files name⟩ := by
  cases hread : files.read (s.metaFile name) with
  | error failure =>
      cases failure with
      | absent => exact .inl ⟨rfl, by simp only [inspect, if_neg hname, hread]⟩
      | failed => exact .inr (.inl ⟨rfl, by simp only [inspect, if_neg hname, hread]⟩)
  | ok bytes =>
      refine .inr (.inr ?_)
      by_cases hcomplete : ∃ endpoint, Complete bytes name endpoint
      · obtain ⟨endpoint, hcomplete⟩ := hcomplete
        refine .inr ⟨bytes, endpoint, rfl, hcomplete, (inspect_eq_ok_iff hname).mpr ?_⟩
        exact ⟨endpoint, describes_iff.mpr ⟨bytes, hread, hcomplete⟩, rfl⟩
      · obtain ⟨fault, hfaulty⟩ := exists_faulty_iff.mpr (not_exists.mp hcomplete)
        exact .inl ⟨bytes, fault, rfl, hfaulty, inspect_of_faulty hname hread hfaulty⟩

theorem inspect_eq_contextNotFound_iff (hname : name ≠ Context.defaultName) :
    s.inspect files name = .error (.contextNotFound name (s.metaDir name)) ↔
      files.read (s.metaFile name) = .error .absent := by
  rcases inspect_cases s files hname with
    ⟨hread, h⟩ | ⟨hread, h⟩ | ⟨_, _, hread, -, h⟩ | ⟨_, _, hread, -, h⟩ <;> simp [hread, h]

theorem inspect_eq_io_iff (hname : name ≠ Context.defaultName) :
    s.inspect files name = .error (.io (s.metaFile name)) ↔
      files.read (s.metaFile name) = .error .failed := by
  rcases inspect_cases s files hname with
    ⟨hread, h⟩ | ⟨hread, h⟩ | ⟨_, _, hread, -, h⟩ | ⟨_, _, hread, -, h⟩ <;> simp [hread, h]

theorem inspect_eq_configInvalid_iff (hname : name ≠ Context.defaultName) {fault : ConfigFault} :
    s.inspect files name = .error (.configInvalid (s.metaFile name) fault) ↔
      ∃ bytes, files.read (s.metaFile name) = .ok bytes ∧ Faulty bytes name fault := by
  constructor
  · intro hfault
    rcases inspect_cases s files hname with
      ⟨-, h⟩ | ⟨-, h⟩ | ⟨bytes, found, hread, hfaulty, h⟩ | ⟨_, _, -, -, h⟩ <;> rw [h] at hfault <;>
      cases hfault
    exact ⟨bytes, hread, hfaulty⟩
  · rintro ⟨bytes, hread, hfaulty⟩
    exact inspect_of_faulty hname hread hfaulty

end ContextStore

/-- The endpoint of a context has a host, whatever context it is. -/
theorem Endpoint.host_ne_empty_of_context {w : World} {host context : Option String}
    {resolved : ResolvedEndpoint} {name : String} (h : resolve w host context = .ok resolved)
    (hsource : resolved.source = .context name) : resolved.host ≠ "" := by
  rcases context_of_resolve h with ⟨dir, name', c, -, hc, rfl⟩ | ⟨hother, -⟩
  · by_cases hname : name' = Context.defaultName
    · subst hname
      rw [ContextStore.inspect_default, Except.ok.injEq] at hc
      subst hc
      decide
    · obtain ⟨endpoint, hdescribes, rfl⟩ := (ContextStore.inspect_eq_ok_iff hname).mp hc
      cases hdescribes with
      | of _ _ _ _ hhost => exact hhost
  · exact absurd hsource (hother name)

/-! ### Only complete contexts -/

namespace ContextStore

/-- **Only complete contexts are accepted, and only under their own name.**  A stored context is
accepted exactly if its description can be read, is complete and has its name, and then it has the
name, the host of the description, and its TLS directory if the probe is there.  Of the others, a
context is not found if reading its description says that nothing is there, can not be read if
reading fails in another way, and is invalid in all other cases.  The default context is not stored,
and no endpoint of a context is without a host. -/
theorem inspect_accepts_complete (s : ContextStore) (files : Files) (name : String) :
    (name ≠ "default" →
      (∀ c, s.inspect files name = .ok c ↔ ∃ bytes endpoint,
        files.read (s.metaFile name) = .ok bytes ∧ Complete bytes name endpoint ∧
          c.name = name ∧ c.host = endpoint.host ∧ c.skipTlsVerify = endpoint.skipTlsVerify ∧
          ∀ dir, c.tlsDir = some dir ↔
            files.present (s.tlsProbe name) = true ∧ dir = s.tlsDir name) ∧
      (s.inspect files name = .error (.contextNotFound name (s.metaDir name)) ↔
        files.read (s.metaFile name) = .error .absent) ∧
      (s.inspect files name = .error (.io (s.metaFile name)) ↔
        files.read (s.metaFile name) = .error .failed) ∧
      ((∃ fault, s.inspect files name = .error (.configInvalid (s.metaFile name) fault)) ↔
        ∃ bytes, files.read (s.metaFile name) = .ok bytes ∧
          ∀ endpoint, ¬Complete bytes name endpoint) ∧
      ∀ e, s.inspect files name = .error e →
        e = .contextNotFound name (s.metaDir name) ∨ e = .io (s.metaFile name) ∨
          ∃ fault, e = .configInvalid (s.metaFile name) fault) ∧
    s.inspect files "default" = .ok ⟨"default", "unix:///var/run/docker.sock", false, none⟩ ∧
    ∀ w host context resolved n, Endpoint.resolve w host context = .ok resolved →
      resolved.source = .context n → resolved.host ≠ "" := by
  refine ⟨fun hname => ⟨?_, ?_, ?_, ?_, ?_⟩, ?_, ?_⟩
  · intro c
    rw [inspect_eq_ok_iff hname]
    constructor
    · rintro ⟨endpoint, hdescribes, rfl⟩
      obtain ⟨bytes, hread, hcomplete⟩ := describes_iff.mp hdescribes
      exact ⟨bytes, endpoint, hread, hcomplete, rfl, rfl, rfl, fun dir => tlsDir?_eq_some_iff⟩
    · rintro ⟨bytes, endpoint, hread, hcomplete, hself, hhost, hskip, htls⟩
      have htlsDir : c.tlsDir = s.tlsDir? files name :=
        Option.ext fun dir => (htls dir).trans tlsDir?_eq_some_iff.symm
      refine ⟨endpoint, describes_iff.mpr ⟨bytes, hread, hcomplete⟩, ?_⟩
      rw [← htlsDir, ← hhost, ← hskip, ← hself]
  · exact inspect_eq_contextNotFound_iff hname
  · exact inspect_eq_io_iff hname
  · simp only [inspect_eq_configInvalid_iff hname, ← exists_faulty_iff]
    constructor
    · rintro ⟨fault, bytes, hread, hfaulty⟩
      exact ⟨bytes, hread, fault, hfaulty⟩
    · rintro ⟨bytes, hread, fault, hfaulty⟩
      exact ⟨fault, bytes, hread, hfaulty⟩
  · intro e he
    rcases inspect_cases s files hname with
      ⟨-, h⟩ | ⟨-, h⟩ | ⟨_, fault, -, -, h⟩ | ⟨_, _, -, -, h⟩ <;> rw [h] at he <;> cases he
    · exact .inl rfl
    · exact .inr (.inl rfl)
    · exact .inr (.inr ⟨fault, rfl⟩)
  · exact inspect_default s files
  · intro w host context resolved n hresolve hsource
    exact Endpoint.host_ne_empty_of_context hresolve hsource

/-- The description of a context with nothing but a host. -/
def farDescription : List UInt8 :=
  Text.encode ("\x7b\"Name\":\"far\",\"Endpoints\":"
    ++ "\x7b\"docker\":\x7b\"Host\":\"tcp://far:2375\"\x7d\x7d\x7d")

/-- Surroundings in which a context is selected that is described, and has TLS files. -/
def describedWorld : World where
  env := .ofList [(Environment.dockerConfig, "/c"), (Environment.dockerContext, "far")]
  home := none
  files :=
    { read := fun path =>
        if path = (mk "/c").metaFile "far" then .ok farDescription else .error .absent
      present := fun path => path == (mk "/c").tlsProbe "far" }

theorem inspect_far : (mk "/c").inspect describedWorld.files "far" =
    .ok ⟨"far", "tcp://far:2375", false, some ((mk "/c").tlsDir "far")⟩ := by
  have hdescribes : (mk "/c").Describes describedWorld.files "far" ⟨"tcp://far:2375", false⟩ :=
    .of (if_pos rfl) (m := ⟨"far", .ofList [("docker", ⟨"tcp://far:2375", false⟩)]⟩) rfl rfl rfl
      (by decide)
  have htls : (mk "/c").tlsDir? describedWorld.files "far" = some ((mk "/c").tlsDir "far") :=
    tlsDir?_eq_some_iff.mpr ⟨beq_self_eq_true _, rfl⟩
  refine (inspect_eq_ok_iff (by decide)).mpr ⟨_, hdescribes, ?_⟩
  rw [htls]

/-- A context that is accepted is described, and its host is used. -/
theorem inspect_accepts_complete_far :
    "far" ≠ "default" ∧
      (∃ bytes endpoint, describedWorld.files.read ((mk "/c").metaFile "far") = .ok bytes ∧
        Complete bytes "far" endpoint ∧ endpoint.host = "tcp://far:2375") ∧
      ∃ resolved, Endpoint.resolve describedWorld none none = .ok resolved ∧
        resolved.source = .context "far" ∧ resolved.host ≠ "" := by
  obtain ⟨hstored, -, hresolve⟩ := inspect_accepts_complete (mk "/c") describedWorld.files "far"
  have hname : "far" ≠ "default" := by decide
  obtain ⟨bytes, endpoint, hread, hcomplete, -, hhost, -⟩ := ((hstored hname).1 _).mp inspect_far
  have hdecides : Endpoint.Decides describedWorld none none (.context .environment "/c" "far") :=
    .inDirectory (Environment.var?_eq_none_iff.mp (by decide))
      (.configured (Environment.var?_eq_some_iff.mp (by decide)))
      (.environment (Environment.var?_eq_some_iff.mp (by decide)))
  have hresolved := Endpoint.resolve_of_decides hdecides
  rw [Endpoint.Decider.outcome, inspect_far] at hresolved
  exact ⟨hname, ⟨bytes, endpoint, hread, hcomplete, hhost.symm⟩, _, hresolved, rfl,
    hresolve _ _ _ _ _ hresolved rfl⟩

/-! ### A directory that is a file -/

/-- A tree where the directory of the contexts is a file. -/
def blockedTree : FileTree :=
  (FileTree.dir []).put "/c/contexts" (.file (Text.encode "file") false)

/-- **A description that is not there need not be reported as missing**: where a directory of its
path is a file, reading fails in another way. -/
theorem inspect_blocked :
    blockedTree.files.present ((mk "/c").metaFile "N") = false ∧
      (mk "/c").inspect blockedTree.files "N" = .error (.io ((mk "/c").metaFile "N")) ∧
      ¬∀ (s : ContextStore) (tree : FileTree) (name : String), name ≠ "default" →
        (s.inspect tree.files name = .error (.contextNotFound name (s.metaDir name)) ↔
          tree.files.present (s.metaFile name) = false) := by
  obtain ⟨hpresent, hread⟩ : blockedTree.files.present ((mk "/c").metaFile "N") = false ∧
      blockedTree.files.read ((mk "/c").metaFile "N") = .error .failed := by
    decide +kernel
  have hname : "N" ≠ Context.defaultName := by decide
  refine ⟨hpresent, (inspect_eq_io_iff hname).mpr hread, fun hall => ?_⟩
  have hmissing := (hall (mk "/c") blockedTree "N" hname).mpr hpresent
  rw [inspect_eq_contextNotFound_iff hname, hread] at hmissing
  cases hmissing

end ContextStore

end DockerClient
