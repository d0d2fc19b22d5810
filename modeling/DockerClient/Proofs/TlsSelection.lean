import DockerClient.Client.Plan
import DockerClient.Proofs.StoredContexts

/-
**How TLS is chosen for a client.**

A TLS option decides alone.  Without one the environment can turn TLS on, and else a stored context
that has TLS files does, for its own host.  Whichever decides, what is left is to take over its
settings, of which those are refused that turn TLS on without a directory.

* `ClientOption.lastTls?`, `ClientSettings.tls_of_ofOptions` — the last TLS option;
* `Endpoint.make_eq_ok_iff`, `Endpoint.make_eq_error_iff` — **settings are taken over or refused**;
* `Endpoint.select_given`, `Endpoint.select_environment`, `Endpoint.select_context` — what the
  settings are;
* `Endpoint.TlsOfSource`, `Endpoint.tlsOfSource_of_tlsFiles?` — **the files of a stored context are
  for its own host only**;
* `Transport.material_of_routeOf`, `Transport.routeOf_https` — TLS is used exactly where it is on;
* `ClientPlan.make_of_refused`, `ClientPlan.endpoint_of_make` — a client has the chosen endpoint;
* `TlsChoice`, `Endpoint.tlsChoice_select` — **what is chosen, and for which host**.
-/

set_option relaxedAutoImplicit false
set_option autoImplicit false

namespace DockerClient

/-! ### TLS options -/

namespace ClientOption

/-- What an option says of TLS. -/
def tls? : ClientOption → Option (Bool × Option String)
  | .tls verify certPath => some (verify, certPath)
  | _ => none

/-- What the last TLS option says. -/
def lastTls? (options : List ClientOption) : Option (Bool × Option String) :=
  (options.filterMap tls?).getLast?

end ClientOption

/-- **The last TLS option decides.** -/
theorem ClientSettings.tls_of_ofOptions {options : List ClientOption} {s : ClientSettings}
    (h : ofOptions options = .ok s) : s.tls = ClientOption.lastTls? options := by
  refine last_of_ofOptions (fun s o t hstep => ?_) rfl h
  cases o with
  | host | context | tls | headers | transport =>
      cases hstep
      rfl
  | logger span =>
      cases span <;> cases hstep <;> rfl
  | healthCheck check =>
      cases check <;> cases hstep
      rfl

namespace Endpoint

/-! ### Settings that are taken over -/

/-- There is no path, or an empty one. -/
def Lacks (certPath : Option String) : Prop := certPath = none ∨ certPath = some ""

/-- TLS is to be on, and there is no directory. -/
def noCertPath (host : String) : Error :=
  .configInvalid Environment.dockerCertPath (.noCertPath host)

variable {host : String} {verify : Bool} {certPath : Option String}

theorem isSome_nonempty_iff : (nonempty certPath).isSome = true ↔ ¬Lacks certPath := by
  cases certPath with
  | none => simp [nonempty, Lacks]
  | some path => simp [nonempty, Lacks, Option.filter]

theorem nonempty_of_ne_empty {path : String} (h : path ≠ "") :
    nonempty (some path) = some path := by
  simp [nonempty, h]

/-- **Settings are refused exactly if they turn TLS on without a directory.** -/
theorem make_eq_error_iff {e : Error} :
    make host verify certPath = .error e ↔
      (verify = true ∧ Lacks certPath) ∧ e = noCertPath host := by
  unfold make
  split
  · rename_i h
    simp only [reduceCtorEq, false_iff, not_and]
    intro hrefused
    exact absurd hrefused.2 (isSome_nonempty_iff.mp (h hrefused.1))
  · rename_i h
    obtain ⟨hverify, hpath⟩ := Classical.not_imp.mp h
    have hlacks : Lacks certPath := not_not.mp (mt isSome_nonempty_iff.mpr hpath)
    rw [Except.error.injEq, ← noCertPath, eq_comm]
    exact (and_iff_right ⟨hverify, hlacks⟩).symm

/-- **Other settings are taken over**, and an empty path counts as none. -/
theorem make_eq_ok_iff {e : Endpoint} :
    make host verify certPath = .ok e ↔ ¬(verify = true ∧ Lacks certPath) ∧
      e.host = host ∧ e.tlsVerify = verify ∧ e.certPath = nonempty certPath := by
  unfold make
  split
  · rename_i h
    have hok : ¬(verify = true ∧ Lacks certPath) := by
      rintro ⟨hverify, hlacks⟩
      exact isSome_nonempty_iff.mp (h hverify) hlacks
    rw [Except.ok.injEq]
    constructor
    · rintro rfl
      exact ⟨hok, rfl, rfl, rfl⟩
    · obtain ⟨_, _, _, _, _⟩ := e
      rintro ⟨-, rfl, rfl, rfl⟩
      rfl
  · rename_i h
    simp only [reduceCtorEq, false_iff]
    rintro ⟨hok, -⟩
    exact absurd (fun hverify => isSome_nonempty_iff.mpr fun hlacks => hok ⟨hverify, hlacks⟩) h

theorem make_refused_iff :
    make host verify certPath = .error (noCertPath host) ↔ verify = true ∧ Lacks certPath := by
  rw [make_eq_error_iff]
  exact and_iff_left rfl

/-- Settings are taken over or refused. -/
theorem make_taken_or_refused (host : String) (verify : Bool) (certPath : Option String) :
    (∃ e, make host verify certPath = .ok e ∧ e.host = host) ∨
      make host verify certPath = .error (noCertPath host) := by
  cases hmake : make host verify certPath with
  | ok e => exact .inl ⟨e, rfl, (make_eq_ok_iff.mp hmake).2.1⟩
  | error e => exact .inr (by rw [(make_eq_error_iff.mp hmake).2])

theorem tlsFiles?_of_certPath {e : Endpoint} {dir : String} (hverify : e.tlsVerify = true)
    (hpath : e.certPath = some dir) : e.tlsFiles? = some (filesIn dir) := by
  rw [tlsFiles?, if_pos hverify, hpath]
  rfl

theorem tlsFiles?_of_not {e : Endpoint} (h : e.tlsVerify = false) : e.tlsFiles? = none := by
  simp [tlsFiles?, h]

/-- **TLS is never on without a directory**, and no directory is the empty path. -/
theorem exists_certPath {e : Endpoint} (h : e.tlsVerify = true) :
    ∃ dir, dir ≠ "" ∧ e.certPath = some dir ∧ e.tlsFiles? = some (filesIn dir) := by
  obtain ⟨dir, hdir⟩ := Option.isSome_iff_exists.mp (e.certPath_of_tlsVerify h)
  refine ⟨dir, ?_, hdir, tlsFiles?_of_certPath h hdir⟩
  rintro rfl
  exact e.certPath_ne_empty hdir

/-! ### The settings that decide -/

variable {env : Environment} {resolved : ResolvedEndpoint}

/-- A variable names no directory exactly if it is unset. -/
theorem lacks_var?_iff {name : String} : Lacks (env.var? name) ↔ env.Unset name := by
  rw [← Environment.var?_eq_none_iff]
  exact or_iff_left fun h => Environment.var?_ne_empty h rfl

/-- A TLS option decides alone. -/
theorem select_given (env : Environment) (verify : Bool) (certPath : Option String)
    (resolved : ResolvedEndpoint) :
    select env (some (verify, certPath)) resolved = make resolved.host verify certPath := rfl

/-- The environment turns TLS on, whatever is stored with a context. -/
theorem select_environment (h : env.isTruthy Environment.dockerTlsVerify = true) :
    select env none resolved =
      make resolved.host true (env.var? Environment.dockerCertPath) := by
  rw [select, ofEnv, h]
  cases hmake : make resolved.host true (env.var? Environment.dockerCertPath) with
  | error e => rfl
  | ok e =>
      have hon : e.tlsVerify = true := (make_eq_ok_iff.mp hmake).2.2.1
      cases resolved.contextTlsDir with
      | none => rfl
      | some dir => simp only [hon, if_true]

/-- Settings without TLS are always taken over. -/
theorem exists_make_plain (host : String) (certPath : Option String) :
    ∃ e, make host false certPath = .ok e ∧ e.host = host ∧ e.tlsVerify = false := by
  rcases make_taken_or_refused host false certPath with ⟨e, he, hhost⟩ | hrefused
  · exact ⟨e, he, hhost, (make_eq_ok_iff.mp he).2.2.1⟩
  · simp [make_eq_error_iff] at hrefused

/-- If the environment does not turn TLS on, a directory of the context does, and nothing else. -/
theorem select_context (hoff : env.isTruthy Environment.dockerTlsVerify = false)
    (hne : resolved.contextTlsDir ≠ some "") :
    ∃ e, select env none resolved = .ok e ∧ e.host = resolved.host ∧
      e.tlsFiles? = resolved.contextTlsDir.map filesIn := by
  obtain ⟨plain, hplain, hhost, hplainOff⟩ :=
    exists_make_plain resolved.host (env.var? Environment.dockerCertPath)
  simp only [select, ofEnv, hoff, hplain]
  cases hdir : resolved.contextTlsDir with
  | none => exact ⟨plain, rfl, hhost, tlsFiles?_of_not hplainOff⟩
  | some dir =>
      simp only [hplainOff, Bool.false_eq_true, if_false]
      have hnonempty : dir ≠ "" := fun h => hne (by rw [hdir, h])
      rcases make_taken_or_refused resolved.host true (some dir) with ⟨e, he, hhost⟩ | hrefused
      · obtain ⟨-, -, hon, hpath⟩ := make_eq_ok_iff.mp he
        rw [nonempty_of_ne_empty hnonempty] at hpath
        exact ⟨e, he, hhost, tlsFiles?_of_certPath hon hpath⟩
      · simp [make_eq_error_iff, Lacks, hnonempty] at hrefused

/-- TLS as the source of an endpoint has it. -/
structure TlsOfSource (w : World) (source : EndpointSource) (e : Endpoint) : Prop where
  on_iff : e.tlsVerify = true ↔ ∃ dir name, w.StoresTls source dir name
  /-- The files are those of this context, and the host is that of its own description. -/
  files_own : ∀ files, e.tlsFiles? = some files →
    ∃ dir name endpoint, w.StoresTls source dir name ∧
      files = filesIn ((ContextStore.mk dir).tlsDir name) ∧
      (ContextStore.mk dir).Describes w.files name endpoint ∧ e.host = endpoint.host
  elsewhere : (∀ name, source ≠ .context name) → e.tlsFiles? = none

/-- **Files of the context's directory go to the context's host**, and nowhere else. -/
theorem tlsOfSource_of_tlsFiles? {w : World} {host context : Option String}
    (hresolved : resolve w host context = .ok resolved) {e : Endpoint}
    (hhost : e.host = resolved.host)
    (hfiles : e.tlsFiles? = resolved.contextTlsDir.map filesIn) :
    TlsOfSource w resolved.source e := by
  have stores {tlsDir : String} : resolved.contextTlsDir = some tlsDir ↔
      ∃ dir name, w.StoresTls resolved.source dir name ∧
        tlsDir = (ContextStore.mk dir).tlsDir name := contextTlsDir_eq_some_iff hresolved
  refine ⟨?_, ?_, ?_⟩
  · rw [← e.tlsFiles?_isSome_iff, hfiles, Option.isSome_map, Option.isSome_iff_exists]
    simp only [stores]
    constructor
    · rintro ⟨-, dir, name, hstores, -⟩
      exact ⟨dir, name, hstores⟩
    · rintro ⟨dir, name, hstores⟩
      exact ⟨_, dir, name, hstores, rfl⟩
  · intro files hsome
    rw [hfiles] at hsome
    obtain ⟨tlsDir, htlsDir, hdir⟩ := Option.map_eq_some_iff.mp hsome
    obtain ⟨dir, name, hstores, hown⟩ := stores.mp htlsDir
    obtain ⟨endpoint, hdescribes, hdescribed⟩ :=
      describes_of_resolve hresolved hstores.source_eq hstores.stored hstores.configDir
    rw [hown] at hdir
    exact ⟨dir, name, endpoint, hstores, hdir.symm, hdescribes, hhost.trans hdescribed⟩
  · intro helsewhere
    rw [hfiles, Option.map_eq_none_iff, Option.eq_none_iff_forall_ne_some]
    intro tlsDir htlsDir
    obtain ⟨dir, name, hstores, -⟩ := stores.mp htlsDir
    exact helsewhere name hstores.source_eq

/-- No endpoint comes with the empty path for TLS files. -/
theorem contextTlsDir_ne_empty {w : World} {host context : Option String}
    (hresolved : resolve w host context = .ok resolved) : resolved.contextTlsDir ≠ some "" := by
  intro hempty
  obtain ⟨dir, name, -, htlsDir⟩ := (contextTlsDir_eq_some_iff hresolved).mp hempty
  exact ContextStore.tlsDir_ne_empty _ _ htlsDir.symm

end Endpoint

/-! ### Ways to the daemon -/

namespace Transport

variable {lib : TlsLibrary} {files : Files} {endpoint : Endpoint}

/-- A way over TCP is found by the scheme of the host. -/
theorem tcpRoute_of_routeOf {authority : String} {tls : Option TlsMaterial}
    (h : routeOf lib files endpoint = .ok (.tcp authority tls)) :
    ∃ scheme rest, tcpRoute lib files endpoint scheme rest = .ok (.tcp authority tls) := by
  unfold routeOf at h
  split at h
  · cases h
  · rename_i scheme rest _
    split at h
    · split at h <;> cases h
    · split at h
      · exact ⟨scheme, rest, h⟩
      · cases h

/-- **The material of a way over TCP is that of the endpoint's files**, and there is none without
TLS. -/
theorem material_of_routeOf {authority : String} {tls : Option TlsMaterial}
    (h : routeOf lib files endpoint = .ok (.tcp authority tls)) :
    (∀ presented, endpoint.tlsFiles? = some presented →
      ∃ material, lib.Loads files presented material ∧ tls = some material) ∧
    (endpoint.tlsFiles? = none → tls = none) := by
  obtain ⟨scheme, rest, hroute⟩ := tcpRoute_of_routeOf h
  unfold tcpRoute at hroute
  split at hroute
  · rename_i presented hpresented
    split at hroute
    · cases hroute
    · rename_i material hload
      cases hroute
      rw [hpresented]
      refine ⟨fun _ hsome => ⟨material, ?_, rfl⟩, nofun⟩
      rw [← Option.some.inj hsome]
      exact TlsLibrary.load_eq_ok_iff.mp hload
  · rename_i hnone
    split at hroute
    · cases hroute
    · cases hroute
      rw [hnone]
      exact ⟨nofun, fun _ => rfl⟩

/-- **A host that asks for encryption is not reached without TLS.** -/
theorem routeOf_https {rest : String} (hoff : endpoint.tlsVerify = false)
    (hscheme : Text.splitAt endpoint.host "://" = some ("https", rest)) :
    routeOf lib files endpoint = .error (.configInvalid endpoint.host .noTlsMaterial) := by
  have hnone : endpoint.tlsFiles? = none := Endpoint.tlsFiles?_of_not hoff
  simp [routeOf, hscheme, Endpoint.tcpSchemes, tcpRoute, hnone]

/-- A transport goes the way that its endpoint's host says. -/
theorem routeOf_of_establish {headers : List Header} {t : Transport}
    (h : establish files endpoint headers lib = .ok t) : routeOf lib files endpoint = .ok t.route := by
  unfold establish withHeaders at h
  split at h
  · cases h
  · split at h
    · cases h
    · rename_i route hroute
      cases h
      exact hroute

end Transport

namespace ClientPlan

variable {w : World} {options : List ClientOption} {settings : ClientSettings}
  {resolved : ResolvedEndpoint}

/-- A client whose TLS settings are refused is not made. -/
theorem make_of_refused (hoptions : ClientSettings.ofOptions options = .ok settings)
    (hresolved : Endpoint.resolve w settings.host settings.context = .ok resolved) {e : Error}
    (h : Endpoint.select w.env settings.tls resolved = .error e) : make w options = .error e := by
  simp only [make, hoptions, ofSettings, hresolved, h]

/-- A client that is made has the endpoint that was chosen, and its own transport goes there. -/
theorem endpoint_of_make (hoptions : ClientSettings.ofOptions options = .ok settings)
    (hresolved : Endpoint.resolve w settings.host settings.context = .ok resolved)
    {plan : ClientPlan} (h : make w options = .ok plan) :
    Endpoint.select w.env settings.tls resolved = .ok plan.endpoint ∧
      plan.source = resolved.source ∧
      ∀ t, plan.link = .over t → Transport.routeOf w.tls w.files plan.endpoint = .ok t.route := by
  simp only [make, hoptions, ofSettings, hresolved] at h
  split at h
  · cases h
  · rename_i endpoint hselect
    split at h
    · cases h
    · rename_i link hlink
      cases h
      refine ⟨hselect, rfl, fun t ht => ?_⟩
      -- a link over a transport is not one that was handed over
      dsimp only at ht
      subst ht
      unfold linkOf at hlink
      split at hlink
      · cases hlink
      · split at hlink
        · cases hlink
        · rename_i hestablish
          cases hlink
          exact Transport.routeOf_of_establish hestablish

end ClientPlan

/-! ### The choice -/

/-- **How TLS is chosen** for the endpoint that options and surroundings led to. -/
structure TlsChoice (w : World) (options : List ClientOption) (resolved : ResolvedEndpoint)
    (chosen : Except Error Endpoint) : Prop where
  /-- What is chosen is for that endpoint's host; nothing is refused but TLS without a directory. -/
  outcome : (∃ e, chosen = .ok e ∧ e.host = resolved.host) ∨
    chosen = .error (Endpoint.noCertPath resolved.host)
  /-- The last TLS option decides alone, and is refused exactly if it turns TLS on without a
  directory. -/
  given : ∀ verify certPath, ClientOption.lastTls? options = some (verify, certPath) →
    (chosen = .error (Endpoint.noCertPath resolved.host) ↔
      verify = true ∧ Endpoint.Lacks certPath) ∧
    ∀ e, chosen = .ok e → e.tlsVerify = verify ∧ e.certPath = Endpoint.nonempty certPath
  /-- Without one, an environment that turns TLS on does so with its directory, whatever is stored
  with a context, and is refused exactly if it names none. -/
  environment : ClientOption.lastTls? options = none →
    w.env.isTruthy Environment.dockerTlsVerify = true →
    (chosen = .error (Endpoint.noCertPath resolved.host) ↔
      w.env.Unset Environment.dockerCertPath) ∧
    ∀ e, chosen = .ok e → e.tlsVerify = true ∧
      ∃ dir, w.env.Sets Environment.dockerCertPath dir ∧
        e.tlsFiles? = some (Endpoint.filesIn dir)
  /-- If neither turns TLS on, the source of the endpoint decides, and nothing is refused. -/
  context : ClientOption.lastTls? options = none →
    w.env.isTruthy Environment.dockerTlsVerify = false →
    ∃ e, chosen = .ok e ∧ Endpoint.TlsOfSource w resolved.source e
  /-- Of no endpoint is the directory the empty path, and TLS is on exactly with a directory whose
  files are presented. -/
  directory : ∀ e : Endpoint, e.certPath ≠ some "" ∧
    (e.tlsVerify = true → ∃ dir, dir ≠ "" ∧ e.certPath = some dir ∧
      e.tlsFiles? = some (Endpoint.filesIn dir)) ∧
    (e.tlsVerify = false → e.tlsFiles? = none)
  /-- Over TCP, TLS is used with the material of these files, and exactly where it is on. -/
  encrypted : ∀ (e : Endpoint) authority tls,
    Transport.routeOf w.tls w.files e = .ok (.tcp authority tls) →
    (∀ files, e.tlsFiles? = some files →
      ∃ material, w.tls.Loads w.files files material ∧ tls = some material) ∧
    (e.tlsFiles? = none → tls = none)
  https_refused : ∀ (e : Endpoint) rest, e.tlsVerify = false →
    Text.splitAt e.host "://" = some ("https", rest) →
    Transport.routeOf w.tls w.files e = .error (.configInvalid e.host .noTlsMaterial)
  refused : ∀ e, chosen = .error e → ClientPlan.make w options = .error e
  /-- A client that is made has the endpoint that was chosen, and its own transport goes there. -/
  planned : ∀ plan, ClientPlan.make w options = .ok plan →
    chosen = .ok plan.endpoint ∧ plan.source = resolved.source ∧
      ∀ t, plan.link = .over t → Transport.routeOf w.tls w.files plan.endpoint = .ok t.route

/-- **TLS is chosen safely**: for all options and surroundings that lead to an endpoint. -/
theorem Endpoint.tlsChoice_select {w : World} {options : List ClientOption}
    {settings : ClientSettings} {resolved : ResolvedEndpoint}
    (hoptions : ClientSettings.ofOptions options = .ok settings)
    (hresolved : Endpoint.resolve w settings.host settings.context = .ok resolved) :
    TlsChoice w options resolved (Endpoint.select w.env settings.tls resolved) := by
  have htls : settings.tls = ClientOption.lastTls? options :=
    ClientSettings.tls_of_ofOptions hoptions
  -- with an option or the environment, their settings are taken over or refused
  have given {verify : Bool} {certPath : Option String}
      (hgiven : ClientOption.lastTls? options = some (verify, certPath)) :
      Endpoint.select w.env settings.tls resolved =
        Endpoint.make resolved.host verify certPath := by
    rw [htls, hgiven, Endpoint.select_given]
  have environment (hnone : ClientOption.lastTls? options = none)
      (hon : w.env.isTruthy Environment.dockerTlsVerify = true) :
      Endpoint.select w.env settings.tls resolved =
        Endpoint.make resolved.host true (w.env.var? Environment.dockerCertPath) := by
    rw [htls, hnone, Endpoint.select_environment hon]
  -- otherwise the directory of the context decides
  have context (hnone : ClientOption.lastTls? options = none)
      (hoff : w.env.isTruthy Environment.dockerTlsVerify = false) :
      ∃ e, Endpoint.select w.env settings.tls resolved = .ok e ∧ e.host = resolved.host ∧
        e.tlsFiles? = resolved.contextTlsDir.map Endpoint.filesIn := by
    rw [htls, hnone]
    exact Endpoint.select_context hoff (Endpoint.contextTlsDir_ne_empty hresolved)
  constructor
  case outcome =>
    cases hlast : ClientOption.lastTls? options with
    | some last =>
        rw [given hlast]
        exact Endpoint.make_taken_or_refused ..
    | none =>
        cases hon : w.env.isTruthy Environment.dockerTlsVerify with
        | true =>
            rw [environment hlast hon]
            exact Endpoint.make_taken_or_refused ..
        | false =>
            obtain ⟨e, he, hhost, -⟩ := context hlast hon
            exact .inl ⟨e, he, hhost⟩
  case given =>
    intro verify certPath hgiven
    rw [given hgiven]
    exact ⟨Endpoint.make_refused_iff, fun e he => (Endpoint.make_eq_ok_iff.mp he).2.2⟩
  case environment =>
    intro hnone hon
    rw [environment hnone hon, Endpoint.make_refused_iff, Endpoint.lacks_var?_iff]
    refine ⟨and_iff_right rfl, fun e he => ?_⟩
    obtain ⟨-, -, hverify, hpath⟩ := Endpoint.make_eq_ok_iff.mp he
    obtain ⟨dir, hdir, hcert, hfiles⟩ := Endpoint.exists_certPath hverify
    rw [hcert] at hpath
    have hvar := (Option.filter_eq_some_iff.mp hpath.symm).1
    exact ⟨hverify, dir, Environment.var?_eq_some_iff.mp hvar, hfiles⟩
  case context =>
    intro hnone hoff
    obtain ⟨e, he, hhost, hfiles⟩ := context hnone hoff
    exact ⟨e, he, Endpoint.tlsOfSource_of_tlsFiles? hresolved hhost hfiles⟩
  case directory =>
    exact fun e => ⟨e.certPath_ne_empty, Endpoint.exists_certPath, Endpoint.tlsFiles?_of_not⟩
  case encrypted => exact fun _ _ _ => Transport.material_of_routeOf
  case https_refused => exact fun _ _ => Transport.routeOf_https
  case refused => exact fun _ => ClientPlan.make_of_refused hoptions hresolved
  case planned => exact fun _ => ClientPlan.endpoint_of_make hoptions hresolved

/-- Surroundings in which a stored context is selected that has TLS files. -/
def remoteWorld : World where
  env := .ofList [(Environment.dockerConfig, "/docker"), (Environment.dockerContext, "remote")]
  home := none
  files :=
    { read := fun path =>
        if path = (ContextStore.mk "/docker").metaFile "remote" then
          .ok (Text.encode ("\x7b\"Name\":\"remote\",\"Endpoints\":"
            ++ "\x7b\"docker\":\x7b\"Host\":\"tcp://far:2376\"\x7d\x7d\x7d"))
        else .error .absent
      present := fun path => path == (ContextStore.mk "/docker").tlsProbe "remote" }

/-- A stored context turns TLS on for its own host. -/
theorem Endpoint.tlsChoice_select_remote :
    ∃ resolved, ClientSettings.ofOptions [] = .ok {} ∧
      Endpoint.resolve remoteWorld none none = .ok resolved ∧
      resolved.host = "tcp://far:2376" ∧ remoteWorld.StoresTls resolved.source "/docker" "remote" ∧
      TlsChoice remoteWorld [] resolved (Endpoint.select remoteWorld.env none resolved) := by
  have hdir : remoteWorld.ConfigDir "/docker" :=
    .configured (Environment.var?_eq_some_iff.mp (by decide))
  have hdecides : Endpoint.Decides remoteWorld none none
      (.context .environment "/docker" "remote") :=
    .inDirectory (Environment.var?_eq_none_iff.mp (by decide)) hdir
      (.environment (Environment.var?_eq_some_iff.mp (by decide)))
  have hdescribes : (ContextStore.mk "/docker").Describes remoteWorld.files "remote"
      ⟨"tcp://far:2376", false⟩ :=
    .of (if_pos rfl) (m := ⟨"remote", .ofList [("docker", ⟨"tcp://far:2376", false⟩)]⟩) rfl rfl rfl
      (by decide)
  have hinspect := (ContextStore.inspect_eq_ok_iff (by decide)).mpr ⟨_, hdescribes, rfl⟩
  have hresolved := Endpoint.resolve_of_decides hdecides
  rw [Endpoint.Decider.outcome, hinspect] at hresolved
  exact ⟨_, rfl, hresolved, rfl, ⟨rfl, by decide, hdir, beq_self_eq_true _⟩,
    @Endpoint.tlsChoice_select remoteWorld [] {} _ rfl hresolved⟩

end DockerClient
