import DockerClient.Proofs.EndpointPrecedence

/-
**Stored contexts and the endpoints they lead to.**

* `ContextStore.Describes` — what the store says of a context, in its own description;
* `ContextStore.inspect_eq_ok_iff` — **a context is used exactly if it is described**, with its TLS
  directory if the probe is there;
* `World.StoresTls` — a source of endpoints that has TLS files: a stored context;
* `Endpoint.contextTlsDir_eq_some_iff` — **only such a source gives an endpoint a TLS directory**,
  and it is that of the context;
* `Endpoint.describes_of_resolve` — the host of the endpoint is that of the context's description.
-/

set_option relaxedAutoImplicit false
set_option autoImplicit false

namespace DockerClient

/-! ### Descriptions -/

namespace ContextStore

/-- What the store says of a context: its description can be read, is for a context of that name,
and has an endpoint with a host. -/
inductive Describes (s : ContextStore) (files : Files) (name : String) : EndpointMeta → Prop
  | of {bytes : List UInt8} {m : ContextMeta} {endpoint : EndpointMeta}
      (hread : files.read (s.metaFile name) = .ok bytes)
      (hmeta : ContextMeta.ofJson? bytes = some m) (hname : m.name = name)
      (hendpoint : m.endpoints.get? "docker" = some endpoint) (hhost : endpoint.host ≠ "") :
      Describes s files name endpoint

theorem endpointOf_eq_ok_iff {m : ContextMeta} {name : String} {endpoint : EndpointMeta} :
    endpointOf m name = .ok endpoint ↔
      m.name = name ∧ m.endpoints.get? "docker" = some endpoint ∧ endpoint.host ≠ "" := by
  unfold endpointOf
  by_cases hname : m.name = name
  · rw [if_neg (not_not_intro hname)]
    cases hget : m.endpoints.get? "docker" with
    | none => simp
    | some found =>
        by_cases hhost : found.host = ""
        · simp only [if_pos hhost, Option.some.injEq, reduceCtorEq, false_iff, not_and]
          rintro - rfl
          exact not_not_intro hhost
        · simp only [if_neg hhost, Except.ok.injEq, Option.some.injEq]
          constructor
          · rintro rfl
            exact ⟨hname, rfl, hhost⟩
          · rintro ⟨-, rfl, -⟩
            rfl
  · simp [hname]

/-- The TLS directory of a stored context, if it has one. -/
def tlsDir? (s : ContextStore) (files : Files) (name : String) : Option String :=
  if files.present (s.tlsProbe name) then some (s.tlsDir name) else none

theorem tlsDir?_eq_some_iff {s : ContextStore} {files : Files} {name tlsDir : String} :
    s.tlsDir? files name = some tlsDir ↔
      files.present (s.tlsProbe name) = true ∧ tlsDir = s.tlsDir name := by
  unfold tlsDir?
  split
  · rename_i hpresent
    rw [Option.some.injEq, eq_comm]
    exact (and_iff_right hpresent).symm
  · rename_i habsent
    simp [habsent]

/-- **A stored context is used exactly if it is described.** -/
theorem inspect_eq_ok_iff {s : ContextStore} {files : Files} {name : String} {c : DockerContext}
    (hname : name ≠ Context.defaultName) :
    s.inspect files name = .ok c ↔ ∃ endpoint, s.Describes files name endpoint ∧
      c = ⟨name, endpoint.host, endpoint.skipTlsVerify, s.tlsDir? files name⟩ := by
  rw [inspect, if_neg hname]
  constructor
  · intro h
    split at h
    · cases h
    · cases h
    · rename_i bytes hread
      split at h
      · cases h
      · rename_i m hmeta
        split at h
        · cases h
        · rename_i endpoint hendpoint
          cases h
          obtain ⟨rfl, hget, hhost⟩ := endpointOf_eq_ok_iff.mp hendpoint
          exact ⟨endpoint, .of hread hmeta rfl hget hhost, rfl⟩
  · rintro ⟨endpoint, ⟨hread, hmeta, hself, hget, hhost⟩, rfl⟩
    simp only [hread, hmeta, endpointOf_eq_ok_iff.mpr ⟨hself, hget, hhost⟩, hself]
    rfl

/-- The context that is not stored has no TLS files. -/
theorem inspect_default (s : ContextStore) (files : Files) :
    s.inspect files Context.defaultName =
      .ok ⟨Context.defaultName, Context.defaultHost, false, none⟩ := if_pos rfl

/-- No TLS directory is the empty path. -/
theorem tlsDir_ne_empty (s : ContextStore) (name : String) : s.tlsDir name ≠ "" := by
  intro h
  have hsuffix : "docker".toList <:+ (s.tlsDir name).toList := Path.suffix_join (by decide)
  rw [h] at hsuffix
  exact absurd hsuffix (by decide)

end ContextStore

/-! ### Endpoints of stored contexts -/

/-- A source of endpoints that has TLS files: a context other than the default one, in the store of
a directory, whose probe is there. -/
structure World.StoresTls (w : World) (source : EndpointSource) (dir name : String) : Prop where
  source_eq : source = .context name
  stored : name ≠ Context.defaultName
  configDir : w.ConfigDir dir
  present : w.files.present ((ContextStore.mk dir).tlsProbe name) = true

namespace Endpoint

variable {w : World} {host context : Option String} {resolved : ResolvedEndpoint}

theorem configDir_of_decides {who : NamedBy} {dir name : String}
    (h : Decides w host context (.context who dir name)) : w.ConfigDir dir := by
  cases h with
  | inDirectory _ hdir hdecides =>
      cases hdecides with
      | caller | environment => exact hdir
      | file _ hfile =>
          cases hfile
          exact hdir

/-- An endpoint is that of a context in the store of the configuration directory, or has nothing to
do with contexts. -/
theorem context_of_resolve (h : resolve w host context = .ok resolved) :
    (∃ dir name c, w.ConfigDir dir ∧ (ContextStore.mk dir).inspect w.files name = .ok c ∧
      resolved = ⟨c.host, .context name, c.tlsDir⟩) ∨
    ((∀ name, resolved.source ≠ .context name) ∧ resolved.contextTlsDir = none) := by
  obtain ⟨d, hdecides, -⟩ := existsUnique_decides w host context
  rw [resolve_of_decides hdecides] at h
  cases d with
  | givenHost | hostVariable | nothing =>
      cases h
      exact .inr ⟨by simp, rfl⟩
  | noDirectory | brokenConfig => cases h
  | context who dir name =>
      rw [Decider.outcome] at h
      split at h
      · rename_i c hc
        cases h
        exact .inl ⟨dir, name, c, configDir_of_decides hdecides, hc, rfl⟩
      · cases h

/-- **Only a stored context gives an endpoint a TLS directory**, and it is its own. -/
theorem contextTlsDir_eq_some_iff (h : resolve w host context = .ok resolved) {tlsDir : String} :
    resolved.contextTlsDir = some tlsDir ↔ ∃ dir name, w.StoresTls resolved.source dir name ∧
      tlsDir = (ContextStore.mk dir).tlsDir name := by
  rcases context_of_resolve h with ⟨dir, name, c, hdir, hc, rfl⟩ | ⟨hsource, hnone⟩
  · by_cases hname : name = Context.defaultName
    · subst hname
      rw [ContextStore.inspect_default, Except.ok.injEq] at hc
      subst hc
      simp only [reduceCtorEq, false_iff]
      rintro ⟨dir', name', hstores, -⟩
      exact hstores.stored (EndpointSource.context.inj hstores.source_eq).symm
    · obtain ⟨endpoint, -, rfl⟩ := (ContextStore.inspect_eq_ok_iff hname).mp hc
      rw [ContextStore.tlsDir?_eq_some_iff]
      constructor
      · rintro ⟨hpresent, htlsDir⟩
        exact ⟨dir, name, ⟨rfl, hname, hdir, hpresent⟩, htlsDir⟩
      · rintro ⟨dir', name', ⟨hsource, -, hdir', hpresent⟩, htlsDir⟩
        obtain rfl := EndpointSource.context.inj hsource
        rw [hdir.unique hdir']
        exact ⟨hpresent, htlsDir⟩
  · rw [hnone]
    simp only [reduceCtorEq, false_iff]
    rintro ⟨dir, name, hstores, -⟩
    exact hsource name hstores.source_eq

/-- **The host of a stored context is that of its own description.** -/
theorem describes_of_resolve (h : resolve w host context = .ok resolved) {dir name : String}
    (hsource : resolved.source = .context name) (hname : name ≠ Context.defaultName)
    (hdir : w.ConfigDir dir) : ∃ endpoint,
      (ContextStore.mk dir).Describes w.files name endpoint ∧ resolved.host = endpoint.host := by
  rcases context_of_resolve h with ⟨dir', name', c, hdir', hc, rfl⟩ | ⟨hother, -⟩
  · cases hsource
    rw [hdir.unique hdir']
    obtain ⟨endpoint, hdescribes, rfl⟩ := (ContextStore.inspect_eq_ok_iff hname).mp hc
    exact ⟨endpoint, hdescribes, rfl⟩
  · exact absurd hsource (hother name)

end Endpoint

end DockerClient
