import DockerClient.Proofs.CredentialOrder
import DockerClient.Proofs.ReferenceRoundTrip

/-
**The host of an image is the key of its credentials.**

Three things are made of the registry of an image: the host that is shown, the key that its
credentials are kept under, and the server that helpers are asked about.  The host is cut out of the
registry by its scheme alone, the key by scheme and path, and both know the names of the hub; on
what an image can name they are the same.

* `Registry.host_eq_getD` — the order in which the schemes are tried is of no importance;
* `Registry.authKey_eq_host` — **the key of a registry is its host**, if that has no slash and the
  registry goes by its one name;
* `Reference.IsCanonical.authKey_registry`, `Reference.IsCanonical.authKey_registryHost` — so it is
  for the registry of an image, and for its host;
* `Credentials.Source.stdin_of_mem_consult` — every helper is asked about one server;
* `Credentials.lookup_congr_host`, `Credentials.lookup_congr_config` — a lookup depends on the key
  of the host and on what is configured under it;
* `Credentials.forImage_eq_ok_iff` — **what credentials for an image come from**;
* `Credentials.host_key_server_agree` — **host, key and server agree**.
-/

set_option relaxedAutoImplicit false
set_option autoImplicit false

namespace DockerClient

/-! ### Registries that an image can name -/

namespace Registry

/-- **The order in which the schemes are tried is of no importance**: no text has both. -/
theorem host_eq_getD (s : String) :
    host s = ((Text.after? "https://" s).or (Text.after? "http://" s)).getD s := by
  unfold host splitScheme
  cases hhttp : Text.after? "http://" s with
  | some rest =>
      have hhttps : Text.after? "https://" s = none := by
        refine Text.after?_eq_none_iff.mpr ?_
        intro other heq
        rw [Text.after?_eq_some_iff] at hhttp
        have hchars := congrArg String.toList (hhttp.symm.trans heq)
        simp at hchars
      simp [hhttps]
  | none => cases Text.after? "https://" s <;> rfl

/-- What is left of a registry without its scheme has no slash, as it is written in an image. -/
theorem notMem_host {lead : String} (h : Reference.IsLead lead) : '/' ∉ (host lead).toList := by
  rcases h with ⟨scheme, hscheme, rest, rfl, hrest⟩ | ⟨hslash, -⟩
  · rwa [host, splitScheme_append hscheme]
  · rwa [host_of_notMem hslash]

/-- A registry that goes by its one name has a host that does. -/
theorem normalize_host {registry : String} (hnormal : normalize registry = registry)
    (hslash : '/' ∉ (host registry).toList) : normalize (host registry) = host registry := by
  have hhost : host (host registry) = host registry := host_of_notMem hslash
  by_cases hhub : host registry ∈ hubNames
  · have hregistry : hub = registry := (if_pos hhub).symm.trans hnormal
    rw [← hregistry]
    decide
  · rw [normalize, hhost, if_neg hhub]

/-- **The key of a registry is its host**, if the registry goes by its one name. -/
theorem authKey_eq_host {registry : String} (hnormal : normalize registry = registry)
    (hslash : '/' ∉ (host registry).toList) : authKey registry = host registry := by
  rw [authKey, Text.upTo_of_notMem hslash, normalize_host hnormal hslash]

end Registry

namespace Reference.IsCanonical

variable {r : Reference}

/-- The key of the registry of an image is its host. -/
theorem authKey_registry (h : r.IsCanonical) : Registry.authKey r.registry = r.registryHost :=
  Registry.authKey_eq_host h.normal (Registry.notMem_host h.registry)

/-- The key of the host of an image is that host. -/
theorem authKey_registryHost (h : r.IsCanonical) :
    Registry.authKey r.registryHost = r.registryHost := by
  rw [← h.authKey_registry, Registry.authKey_authKey]

end Reference.IsCanonical

/-! ### What a lookup depends on -/

namespace Credentials

namespace Source

theorem stdin_of_mem_calls {key : String} {source : Source} {call : HelperCall}
    (h : call ∈ source.calls key) : call.stdin = Registry.serverUrl key := by
  obtain ⟨store, -, rfl⟩ := List.mem_map.mp h
  rfl

/-- No source is asked that is not in the list. -/
theorem mem_calls_of_mem_consult {run : HelperRunner} {key : String} {before : List HelperCall}
    {sources : List Source} {call : HelperCall}
    (h : call ∈ (consult run key before sources).calls) :
    ∃ source ∈ sources, call ∈ source.calls key := by
  rcases consult_decided_or_silent run key sources before with
    ⟨passed, decider, rest, rfl, -, -, heq⟩ | ⟨-, heq⟩
  · rw [heq] at h
    obtain ⟨source, hsource, hcall⟩ := List.mem_flatMap.mp h
    refine ⟨source, ?_, hcall⟩
    rw [List.append_cons]
    exact List.mem_append_left rest hsource
  · rw [heq] at h
    exact List.mem_flatMap.mp h

/-- **Every helper is asked about one server.** -/
theorem stdin_of_mem_consult {run : HelperRunner} {key : String} {before : List HelperCall}
    {sources : List Source} {call : HelperCall}
    (h : call ∈ (consult run key before sources).calls) :
    call.stdin = Registry.serverUrl key := by
  obtain ⟨source, -, hcall⟩ := mem_calls_of_mem_consult h
  exact stdin_of_mem_calls hcall

end Source

/-- **Two spellings of one host** are looked up in the same way. -/
theorem lookup_congr_host {a b : String} (h : Registry.authKey a = Registry.authKey b)
    (config : ConfigFile) (run : HelperRunner) : lookup config run a = lookup config run b := by
  rw [lookup_eq_consult, lookup_eq_consult, h]

/-- What is configured under a key, and for all hosts. -/
structure SameUnder (key : String) (c d : ConfigFile) : Prop where
  helper : c.credentialHelpers.get? key = d.credentialHelpers.get? key
  entry : c.auths.get? key = d.auths.get? key
  store : c.credentialsStore = d.credentialsStore

/-- **Only what is configured under the key of a host is looked up**, and the helper of all
hosts. -/
theorem lookup_congr_config {host : String} {c d : ConfigFile}
    (h : SameUnder (Registry.authKey host) c d) (run : HelperRunner) :
    lookup c run host = lookup d run host := by
  rw [lookup_eq_consult, lookup_eq_consult, Source.inOrder, Source.inOrder, h.helper, h.entry,
    h.store]

/-! ### Credentials for an image -/

theorem serverAddress_toDocker (c : Credentials) (server : String) :
    (c.toDocker server).serverAddress = some server := by
  unfold toDocker
  split <;> rfl

/-- **What credentials for an image come from**: its reference, the configuration of the
surroundings, and a lookup for its host. -/
theorem forImage_eq_ok_iff {w : World} {run : HelperRunner} {image host : String}
    {docker : DockerCredentials} : forImage w run image = .ok (host, docker) ↔
      ∃ r config found, Reference.parse image = .ok r ∧ r.registryHost = host ∧
        userConfig w = .ok config ∧ (lookup config run host).result = .ok found ∧
        docker = found.toDocker (Registry.serverUrl host) := by
  unfold forImage askForImage
  constructor
  · intro h
    split at h
    · cases h
    · rename_i r hread
      dsimp only [forHost] at h
      split at h
      · cases h
      · rename_i found hfound
        cases h
        split at hfound
        · cases hfound
        · rename_i config hconfig
          exact ⟨r, config, found, hread, rfl, hconfig, hfound, rfl⟩
  · rintro ⟨r, config, found, hread, rfl, hconfig, hfound, rfl⟩
    simp only [hread, forHost, hconfig, hfound]

/-- For an image those helpers are called that a lookup for its host calls. -/
theorem calls_askForImage {w : World} {image : String} {r : Reference} {config : ConfigFile}
    (hread : Reference.parse image = .ok r) (hconfig : userConfig w = .ok config)
    (run : HelperRunner) :
    (askForImage w run image).1 = (lookup config run r.registryHost).calls := by
  simp only [askForImage, hread, forHost, hconfig]

/-- **Host, key and server agree.**  The key of a key is the key.  The key of the registry of an
image is its host, which is its own key; so what is looked up for an image is what is configured
under its host, and nothing else, and every helper is asked about the server of that host.  The
credentials for an image are those that are found under its host, for the server that every helper
was asked about.  And hosts with one key are looked up in the same way. -/
theorem host_key_server_agree :
    (∀ key, Registry.authKey (Registry.authKey key) = Registry.authKey key) ∧
    (∀ image r, Reference.parse image = .ok r →
      Registry.authKey r.registry = r.registryHost ∧
      Registry.authKey r.registryHost = r.registryHost ∧
      ∀ config run,
        lookup config run r.registryHost =
          Source.consult run r.registryHost [] (Source.inOrder config r.registryHost) ∧
        (∀ other, SameUnder r.registryHost config other →
          lookup config run r.registryHost = lookup other run r.registryHost) ∧
        ∀ call ∈ (lookup config run r.registryHost).calls,
          call.stdin = Registry.serverUrl r.registryHost) ∧
    (∀ w run image host docker, forImage w run image = .ok (host, docker) ↔
      ∃ r config found, Reference.parse image = .ok r ∧ r.registryHost = host ∧
        userConfig w = .ok config ∧ (lookup config run host).result = .ok found ∧
        docker = found.toDocker (Registry.serverUrl host)) ∧
    (∀ w run image host docker, forImage w run image = .ok (host, docker) →
      docker.serverAddress = some (Registry.serverUrl host) ∧
      (∀ call ∈ (askForImage w run image).1, docker.serverAddress = some call.stdin) ∧
      ∃ config, userConfig w = .ok config ∧
        (askForImage w run image).1 = (lookup config run host).calls ∧
        lookup config run host = Source.consult run host [] (Source.inOrder config host)) ∧
    (∀ config run a b, Registry.authKey a = Registry.authKey b →
      lookup config run a = lookup config run b) := by
  have consulted (config : ConfigFile) (run : HelperRunner) {r : Reference}
      (h : r.IsCanonical) : lookup config run r.registryHost =
        Source.consult run r.registryHost [] (Source.inOrder config r.registryHost) := by
    rw [lookup_eq_consult, h.authKey_registryHost]
  refine ⟨Registry.authKey_authKey, ?_, fun _ _ _ _ _ => forImage_eq_ok_iff, ?_,
    fun config run a b h => lookup_congr_host h config run⟩
  · intro image r hread
    have hr := Reference.isCanonical_of_parse hread
    refine ⟨hr.authKey_registry, hr.authKey_registryHost, fun config run => ?_⟩
    refine ⟨consulted config run hr, fun other hsame => ?_, fun call hcall => ?_⟩
    · exact lookup_congr_config (by rwa [hr.authKey_registryHost]) run
    · rw [consulted config run hr] at hcall
      exact Source.stdin_of_mem_consult hcall
  · intro w run image host docker himage
    obtain ⟨r, config, found, hread, rfl, hconfig, -, rfl⟩ := forImage_eq_ok_iff.mp himage
    have hr := Reference.isCanonical_of_parse hread
    have hserver := serverAddress_toDocker found (Registry.serverUrl r.registryHost)
    have hcalls := calls_askForImage hread hconfig run
    refine ⟨hserver, fun call hcall => ?_, config, hconfig, hcalls, consulted config run hr⟩
    rw [hcalls, consulted config run hr] at hcall
    rw [hserver, Source.stdin_of_mem_consult hcall]

/-- Surroundings without a configuration. -/
def bareWorld : World where
  env := .ofList [(Environment.dockerConfig, "/docker")]
  home := none
  files := Files.none

/-- The helpers of a machine that has only that of the platform, which knows a token. -/
def tokenHelper : HelperRunner := fun _ call =>
  if call.program = Helper.program Helper.platform then
    .ok ⟨Text.encode "\x7b\"Username\":\"<token>\",\"Secret\":\"t1\"\x7d", [], some 0⟩
  else .error (.helperNotFound call.program)

/-- An image on the hub, under another of its names and with a scheme, of which the helper of the
platform knows a token. -/
theorem host_key_server_agree_hub_name :
    ∃ r docker, Reference.parse "https://registry-1.docker.io/library/nginx" = .ok r ∧
      forImage bareWorld tokenHelper "https://registry-1.docker.io/library/nginx" =
        .ok ("index.docker.io", docker) ∧
      Registry.authKey r.registry = r.registryHost ∧
      (askForImage bareWorld tokenHelper "https://registry-1.docker.io/library/nginx").1 =
        [⟨"docker-credential-secretservice", "get", "https://index.docker.io/v1/"⟩] ∧
      (∀ call ∈ (askForImage bareWorld tokenHelper
          "https://registry-1.docker.io/library/nginx").1,
        docker.serverAddress = some call.stdin) ∧
      lookup {} tokenHelper "http://docker.io/v2/" = lookup {} tokenHelper "index.docker.io" := by
  have hread : Reference.parse "https://registry-1.docker.io/library/nginx" =
      .ok ⟨"index.docker.io", "library/nginx", none, none⟩ := by rfl
  have himage : forImage bareWorld tokenHelper "https://registry-1.docker.io/library/nginx" =
      .ok ("index.docker.io",
        { identityToken := some "t1", serverAddress := some "https://index.docker.io/v1/" }) := by
    rfl
  obtain ⟨-, hhosts, -, hserver, hspelling⟩ := host_key_server_agree
  obtain ⟨-, hcalls, -⟩ := hserver _ _ _ _ _ himage
  exact ⟨_, _, hread, himage, (hhosts _ _ hread).1, by rfl, hcalls,
    hspelling {} tokenHelper _ _ (by decide)⟩

end Credentials

end DockerClient
