import DockerClient.Context.Resolve
import Mathlib.Logic.ExistsUnique
import Mathlib.Data.List.Infix

/-
**What decides on the endpoint.**

The endpoint comes from the first of several sources that has something to say: a given host,
`DOCKER_HOST`, a given context, `DOCKER_CONTEXT` and the configuration file.  The rule is stated
here on its own, as a relation between what a call can look at and what decides; the outcome is then
that of what decides, and nothing else is of any importance.

* `Environment.Sets`, `World.ConfigDir` — variables that are set, and the configuration directory;
* `Endpoint.Decider`, `Endpoint.Decides` — **what decides**, by rank;
* `Endpoint.existsUnique_decides` — exactly one thing decides;
* `Endpoint.resolve_of_decides` — **the endpoint is that of what decides**;
* `Endpoint.Decider.SameReads`, `Endpoint.resolve_congr` — **only what decides and what it reads is
  of importance**, in two runs;
* `Endpoint.resolve_precedence` — all of this, and what can not interfere.
-/

set_option relaxedAutoImplicit false
set_option autoImplicit false

namespace DockerClient

/-! ### Variables and the configuration directory -/

namespace Environment

/-- A variable has a value that is not empty. -/
def Sets (env : Environment) (name value : String) : Prop :=
  env.value? name = some value ∧ value ≠ ""

/-- A variable has no value, or an empty one. -/
def Unset (env : Environment) (name : String) : Prop := ∀ value, ¬env.Sets name value

theorem var?_eq_some_iff {env : Environment} {name value : String} :
    env.var? name = some value ↔ env.Sets name value := by
  simp [var?, Sets, Option.filter_eq_some_iff]

theorem var?_eq_none_iff {env : Environment} {name : String} :
    env.var? name = none ↔ env.Unset name := by
  simp [Option.eq_none_iff_forall_ne_some, var?_eq_some_iff, Unset]

theorem Sets.unique {env : Environment} {name v w : String} (hv : env.Sets name v)
    (hw : env.Sets name w) : v = w :=
  Option.some.inj (hv.1.symm.trans hw.1)

end Environment

/-- The configuration directory: that of `DOCKER_CONFIG`, and else the one in the home directory. -/
inductive World.ConfigDir (w : World) : String → Prop
  | configured {dir : String} (hset : w.env.Sets Environment.dockerConfig dir) : ConfigDir w dir
  | inHome {home : String} (hunset : w.env.Unset Environment.dockerConfig)
      (hhome : w.home = some home) : ConfigDir w (Path.join home ".docker")

theorem World.ConfigDir.unique {w : World} {dir dir' : String} (h : w.ConfigDir dir)
    (h' : w.ConfigDir dir') : dir = dir' := by
  cases h with
  | configured hset =>
      cases h' with
      | configured hset' => exact hset.unique hset'
      | inHome hunset _ => exact absurd hset (hunset _)
  | inHome hunset hhome =>
      cases h' with
      | configured hset => exact absurd hset (hunset _)
      | inHome _ hhome' => rw [Option.some.inj (hhome.symm.trans hhome')]

/-- The configuration directory is known without the files. -/
theorem World.ConfigDir.withFiles {w : World} {dir : String} (h : w.ConfigDir dir) (files : Files) :
    { w with files := files }.ConfigDir dir := by
  cases h with
  | configured hset => exact .configured hset
  | inHome hunset hhome => exact .inHome hunset hhome

namespace Config

theorem directory_of_configDir {w : World} {dir : String} (h : w.ConfigDir dir) :
    directory w = .ok dir := by
  cases h with
  | configured hset => rw [directory, Environment.var?_eq_some_iff.mpr hset]
  | inHome hunset hhome => rw [directory, Environment.var?_eq_none_iff.mpr hunset, hhome]

/-- Without a configuration directory there is one reason: no home directory is known. -/
theorem directory_of_not_configDir {w : World} (h : ∀ dir, ¬w.ConfigDir dir) :
    directory w = .error (.configInvalid "home directory" .noHome) := by
  rw [directory]
  split
  · rename_i dir hdir
    exact absurd (.configured (Environment.var?_eq_some_iff.mp hdir)) (h dir)
  · rename_i hunset
    split
    · rename_i home hhome
      exact absurd (.inHome (Environment.var?_eq_none_iff.mp hunset) hhome) (h _)
    · rfl

end Config

namespace Endpoint

/-! ### What decides -/

/-- Who names a context. -/
inductive NamedBy where
  | caller
  | environment
  | configuration
deriving DecidableEq, Repr

/-- **What decides on an endpoint**, with what it says. -/
inductive Decider where
  | givenHost (host : String)
  | hostVariable (host : String)
  | noDirectory
  | context (who : NamedBy) (dir name : String)
  | brokenConfig (e : Error)
  | nothing

/-- The configuration file of a directory. -/
def configFile (dir : String) : String := Path.join dir Config.fileName

/-- What the configuration file of a directory decides: its context if it selects one.  A file that
is there but can not be used decides too, and its error is the outcome. -/
inductive DecidesInFile (files : Files) (dir : String) : Decider → Prop
  | selected {bytes : List UInt8} {c : ConfigFile}
      (hread : files.read (configFile dir) = .ok bytes)
      (hload : ConfigFile.ofJson (configFile dir) bytes = .ok c) (hname : c.currentContext ≠ "") :
      DecidesInFile files dir (.context .configuration dir c.currentContext)
  | unselected {bytes : List UInt8} {c : ConfigFile}
      (hread : files.read (configFile dir) = .ok bytes)
      (hload : ConfigFile.ofJson (configFile dir) bytes = .ok c) (hname : c.currentContext = "") :
      DecidesInFile files dir .nothing
  | absent (hread : files.read (configFile dir) = .error .absent) :
      DecidesInFile files dir .nothing
  | malformed {bytes : List UInt8} {e : Error} (hread : files.read (configFile dir) = .ok bytes)
      (hload : ConfigFile.ofJson (configFile dir) bytes = .error e) :
      DecidesInFile files dir (.brokenConfig e)
  | unreadable (hread : files.read (configFile dir) = .error .failed) :
      DecidesInFile files dir (.brokenConfig (.io (configFile dir)))

/-- What decides below the hosts: a context of the caller, then one of `DOCKER_CONTEXT`, then the
configuration file. -/
inductive DecidesInDir (w : World) (dir : String) : Option String → Decider → Prop
  | caller (name : String) : DecidesInDir w dir (some name) (.context .caller dir name)
  | environment {name : String} (hset : w.env.Sets Environment.dockerContext name) :
      DecidesInDir w dir none (.context .environment dir name)
  | file {d : Decider} (hunset : w.env.Unset Environment.dockerContext)
      (hfile : DecidesInFile w.files dir d) : DecidesInDir w dir none d

/-- **What decides**, from the host and the context of the caller: that host, then one of
`DOCKER_HOST`, then what the configuration directory leads to, if there is one. -/
inductive Decides (w : World) : Option String → Option String → Decider → Prop
  | givenHost (host : String) (context : Option String) :
      Decides w (some host) context (.givenHost host)
  | hostVariable {host : String} {context : Option String}
      (hset : w.env.Sets Environment.dockerHost host) :
      Decides w none context (.hostVariable host)
  | noDirectory {context : Option String} (hunset : w.env.Unset Environment.dockerHost)
      (hdir : ∀ dir, ¬w.ConfigDir dir) : Decides w none context .noDirectory
  | inDirectory {context : Option String} {dir : String} {d : Decider}
      (hunset : w.env.Unset Environment.dockerHost) (hdir : w.ConfigDir dir)
      (hdecides : DecidesInDir w dir context d) : Decides w none context d

/-- **The endpoint of what decides.**  An error of a context is the outcome as it is. -/
def Decider.outcome (files : Files) : Decider → Except Error ResolvedEndpoint
  | .givenHost host => .ok ⟨host, .override, none⟩
  | .hostVariable host => .ok ⟨host, .envHost, none⟩
  | .noDirectory => .error (.configInvalid "home directory" .noHome)
  | .context _ dir name =>
      match (ContextStore.mk dir).inspect files name with
      | .ok c => .ok ⟨c.host, .context name, c.tlsDir⟩
      | .error e => .error e
  | .brokenConfig e => .error e
  | .nothing => .ok ⟨Context.defaultHost, .default, none⟩

/-! ### Exactly one thing decides -/

theorem existsUnique_decidesInFile (files : Files) (dir : String) :
    ∃! d, DecidesInFile files dir d := by
  have hunique {d d' : Decider} (h : DecidesInFile files dir d) (h' : DecidesInFile files dir d') :
      d' = d := by
    cases h <;> cases h' <;> simp_all
  suffices h : ∃ d, DecidesInFile files dir d from h.imp fun d h => ⟨h, fun d' => hunique h⟩
  match hread : files.read (configFile dir) with
  | .error .absent => exact ⟨_, .absent hread⟩
  | .error .failed => exact ⟨_, .unreadable hread⟩
  | .ok bytes =>
      match hload : ConfigFile.ofJson (configFile dir) bytes with
      | .error e => exact ⟨_, .malformed hread hload⟩
      | .ok c =>
          by_cases hname : c.currentContext = ""
          · exact ⟨_, .unselected hread hload hname⟩
          · exact ⟨_, .selected hread hload hname⟩

theorem existsUnique_decidesInDir (w : World) (dir : String) (context : Option String) :
    ∃! d, DecidesInDir w dir context d := by
  match context with
  | some name =>
      refine ⟨_, .caller name, fun d' h' => ?_⟩
      cases h' with
      | caller => rfl
  | none =>
      match hvar : w.env.var? Environment.dockerContext with
      | some name =>
          have hset := Environment.var?_eq_some_iff.mp hvar
          refine ⟨_, .environment hset, fun d' h' => ?_⟩
          cases h' with
          | environment hset' => rw [hset.unique hset']
          | file hunset _ => exact absurd hset (hunset name)
      | none =>
          have hunset := Environment.var?_eq_none_iff.mp hvar
          obtain ⟨d, hfile, hunique⟩ := existsUnique_decidesInFile w.files dir
          refine ⟨d, .file hunset hfile, fun d' h' => ?_⟩
          cases h' with
          | environment hset => exact absurd hset (hunset _)
          | file _ hfile' => exact hunique d' hfile'

/-- **Exactly one thing decides.** -/
theorem existsUnique_decides (w : World) (host context : Option String) :
    ∃! d, Decides w host context d := by
  match host with
  | some host =>
      refine ⟨_, .givenHost host context, fun d' h' => ?_⟩
      cases h' with
      | givenHost => rfl
  | none =>
      match hvar : w.env.var? Environment.dockerHost with
      | some host =>
          have hset := Environment.var?_eq_some_iff.mp hvar
          refine ⟨_, .hostVariable hset, fun d' h' => ?_⟩
          cases h' with
          | hostVariable hset' => rw [hset.unique hset']
          | noDirectory hunset _ => exact absurd hset (hunset host)
          | inDirectory hunset _ _ => exact absurd hset (hunset host)
      | none =>
          have hunset := Environment.var?_eq_none_iff.mp hvar
          by_cases hdir : ∃ dir, w.ConfigDir dir
          · obtain ⟨dir, hdir⟩ := hdir
            obtain ⟨d, hdecides, hunique⟩ := existsUnique_decidesInDir w dir context
            refine ⟨d, .inDirectory hunset hdir hdecides, fun d' h' => ?_⟩
            cases h' with
            | hostVariable hset => exact absurd hset (hunset _)
            | noDirectory _ hnone => exact absurd hdir (hnone dir)
            | inDirectory _ hdir' hdecides' =>
                rw [← hdir.unique hdir'] at hdecides'
                exact hunique d' hdecides'
          · have hnone := not_exists.mp hdir
            refine ⟨_, .noDirectory hunset hnone, fun d' h' => ?_⟩
            cases h' with
            | hostVariable hset => exact absurd hset (hunset _)
            | noDirectory => rfl
            | inDirectory _ hdir' _ => exact absurd hdir' (hnone _)

/-! ### The outcome -/

/-- A configuration that can not be read is invalid, and nothing else is wrong with it. -/
theorem eq_configInvalid_of_ofJson {origin : String} {bytes : List UInt8} {e : Error}
    (h : ConfigFile.ofJson origin bytes = .error e) :
    e = .configInvalid origin (.unreadable .configuration bytes) := by
  unfold ConfigFile.ofJson at h
  split at h
  · cases h
    rfl
  · split at h
    · cases h
      rfl
    · cases h

theorem ofContext_eq_outcome (w : World) (who : NamedBy) (dir name : String) :
    ofContext w ⟨dir⟩ (some name) = (Decider.context who dir name).outcome w.files := by
  rw [ofContext, Decider.outcome]
  cases (ContextStore.mk dir).inspect w.files name <;> rfl

theorem current_bind_of_decidesInFile {w : World} {dir : String} {d : Decider}
    (h : DecidesInFile w.files dir d) :
    ((ContextStore.mk dir).current w.files).bind (ofContext w ⟨dir⟩) = d.outcome w.files := by
  rw [ContextStore.current, ConfigFile.loadFile]
  cases h with
  | selected hread hload hname =>
      rw [← configFile, hread]
      simp only [hload, if_neg hname]
      exact ofContext_eq_outcome ..
  | unselected hread hload hname =>
      rw [← configFile, hread]
      simp only [hload, if_pos hname]
      rfl
  | absent hread =>
      rw [← configFile, hread]
      rfl
  | malformed hread hload =>
      rw [← configFile, hread]
      -- the fault is not that of an absent file, which would have been taken for no selection
      have hfault := eq_configInvalid_of_ofJson hload
      simp only [hload, hfault]
      rfl
  | unreadable hread =>
      rw [← configFile, hread]
      rfl

theorem contextName_bind_of_decidesInDir {w : World} {dir : String} {context : Option String}
    {d : Decider} (h : DecidesInDir w dir context d) :
    (contextName w ⟨dir⟩ context).bind (ofContext w ⟨dir⟩) = d.outcome w.files := by
  cases h with
  | caller name => exact ofContext_eq_outcome ..
  | environment hset =>
      rw [contextName, Environment.var?_eq_some_iff.mpr hset]
      exact ofContext_eq_outcome ..
  | file hunset hfile =>
      rw [contextName, Environment.var?_eq_none_iff.mpr hunset]
      exact current_bind_of_decidesInFile hfile

/-- **The endpoint is that of what decides.** -/
theorem resolve_of_decides {w : World} {host context : Option String} {d : Decider}
    (h : Decides w host context d) : resolve w host context = d.outcome w.files := by
  cases h with
  | givenHost => rfl
  | hostVariable hset =>
      rw [resolve, Environment.var?_eq_some_iff.mpr hset]
      rfl
  | noDirectory hunset hdir =>
      rw [resolve, Environment.var?_eq_none_iff.mpr hunset, ContextStore.ofWorld,
        Config.directory_of_not_configDir hdir]
      rfl
  | inDirectory hunset hdir hdecides =>
      rw [← contextName_bind_of_decidesInDir hdecides, resolve,
        Environment.var?_eq_none_iff.mpr hunset, ContextStore.ofWorld,
        Config.directory_of_configDir hdir]
      simp only [Except.map]
      cases contextName w _ context <;> rfl

end Endpoint

/-! ### What is read -/

namespace Path

/-- A path to a relative name ends with that name. -/
theorem suffix_join {directory name : String} (h : name.toList.head? ≠ some '/') :
    name.toList <:+ (join directory name).toList := by
  obtain ⟨separator, -, hjoin⟩ := @join_below directory name h
  rw [hjoin, String.toList_append]
  exact List.suffix_append _ _

/-- Paths to names of which neither ends with the other one are different. -/
theorem join_ne_join {a b x y : String} (hx : x.toList.head? ≠ some '/')
    (hy : y.toList.head? ≠ some '/') (hxy : ¬x.toList <:+ y.toList) (hyx : ¬y.toList <:+ x.toList) :
    join a x ≠ join b y := by
  intro heq
  have hsuffix := @suffix_join a x hx
  rw [heq] at hsuffix
  rcases List.suffix_or_suffix_of_suffix hsuffix (suffix_join hy) with h | h
  · exact hxy h
  · exact hyx h

end Path

/-- Two file systems differ in nothing but what is at one path. -/
def Files.SameBut (path : String) (f g : Files) : Prop :=
  ∀ other, other ≠ path → f.read other = g.read other ∧ f.present other = g.present other

namespace ContextStore

/-- Two file systems look the same to a stored context: they agree on its description and, if that
is a good one, on whether it has TLS files. -/
def SameFor (s : ContextStore) (name : String) (f g : Files) : Prop :=
  name ≠ Context.defaultName → f.read (s.metaFile name) = g.read (s.metaFile name) ∧
    ((s.inspect f name).isOk = true → f.present (s.tlsProbe name) = g.present (s.tlsProbe name))

theorem inspect_congr {s : ContextStore} {name : String} {f g : Files} (h : s.SameFor name f g) :
    s.inspect f name = s.inspect g name := by
  by_cases hname : name = Context.defaultName
  · rw [inspect, inspect, if_pos hname, if_pos hname]
  obtain ⟨hread, hpresent⟩ := h hname
  simp only [inspect, if_neg hname, ← hread] at hpresent ⊢
  split
  · rfl
  · rfl
  · rename_i bytes hbytes
    split
    · rfl
    · rename_i m hm
      split
      · rfl
      · rename_i endpoint hendpoint
        -- only here is it asked whether there are TLS files
        simp only [hbytes, hm, hendpoint] at hpresent
        rw [hpresent rfl]

/-- No file of a context is the configuration file. -/
theorem sameFor_of_sameBut {s : ContextStore} {dir name : String} {f g : Files}
    (h : Files.SameBut (Endpoint.configFile dir) f g) : s.SameFor name f g := by
  intro _
  have hmeta : s.metaFile name ≠ Endpoint.configFile dir :=
    Path.join_ne_join (by decide) (by decide) (by decide) (by decide)
  have htls : s.tlsProbe name ≠ Endpoint.configFile dir :=
    Path.join_ne_join (by decide) (by decide) (by decide) (by decide)
  exact ⟨(h _ hmeta).1, fun _ => (h _ htls).2⟩

end ContextStore

/-! ### Two runs -/

namespace Endpoint

/-- **Two file systems agree on what is read** for the endpoint of what decides. -/
def Decider.SameReads (f g : Files) : Decider → Prop
  | .context _ dir name => (ContextStore.mk dir).SameFor name f g
  | _ => True

theorem Decider.outcome_congr {d : Decider} {f g : Files} (h : d.SameReads f g) :
    d.outcome f = d.outcome g := by
  cases d with
  | context who dir name =>
      rw [outcome, outcome, ContextStore.inspect_congr h]
  | _ => rfl

/-- **Only what decides and what it reads is of importance**, in two runs of whatever kind. -/
theorem resolve_congr {w w' : World} {host context host' context' : Option String} {d : Decider}
    (h : Decides w host context d) (h' : Decides w' host' context' d)
    (hreads : d.SameReads w.files w'.files) :
    resolve w host context = resolve w' host' context' := by
  rw [resolve_of_decides h, resolve_of_decides h', d.outcome_congr hreads]

/-- A context that is named by the caller or the environment is so in all files. -/
theorem decides_of_named {w : World} {host context : Option String} {who : NamedBy}
    {dir name : String} (h : Decides w host context (.context who dir name))
    (hwho : who ≠ .configuration) (files : Files) :
    Decides { w with files := files } host context (.context who dir name) := by
  cases h with
  | inDirectory hunset hdir hdecides =>
      refine .inDirectory hunset (hdir.withFiles files) ?_
      cases hdecides with
      | caller => exact .caller _
      | environment hset => exact .environment hset
      | file _ hfile =>
          -- the file names contexts only in its own right
          cases hfile
          exact absurd rfl hwho

/-- **The endpoint is that of the first source that says something, and nothing else interferes.**
One thing decides; the endpoint is the outcome of it; two runs with the same decider that read the
same for it end the same.  In particular nothing else is of importance with a host of the caller or
of `DOCKER_HOST`, and the configuration file is not with a context that is named without it. -/
theorem resolve_precedence (w : World) (host context : Option String) :
    (∃! d, Decides w host context d) ∧
    (∀ d, Decides w host context d → resolve w host context = d.outcome w.files) ∧
    (∀ d w' host' context', Decides w host context d → Decides w' host' context' d →
      d.SameReads w.files w'.files → resolve w host context = resolve w' host' context') ∧
    (∀ w' context', host.isSome = true → resolve w host context = resolve w' host context') ∧
    (∀ w' context' h, w.env.Sets Environment.dockerHost h → w'.env.Sets Environment.dockerHost h →
      resolve w host context = resolve w' host context') ∧
    (∀ who dir name files, Decides w host context (.context who dir name) → who ≠ .configuration →
      Files.SameBut (configFile dir) w.files files →
      resolve w host context = resolve { w with files := files } host context) := by
  refine ⟨existsUnique_decides w host context, fun d => resolve_of_decides,
    fun d w' host' context' => resolve_congr, ?_, ?_, ?_⟩
  · intro w' context' hhost
    obtain ⟨h, rfl⟩ := Option.isSome_iff_exists.mp hhost
    exact resolve_congr (.givenHost h context) (.givenHost h context') trivial
  · intro w' context' h hset hset'
    cases host with
    | some host => exact resolve_congr (.givenHost host context) (.givenHost host context') trivial
    | none => exact resolve_congr (.hostVariable hset) (.hostVariable hset') trivial
  · intro who dir name files hdecides hwho hsame
    exact resolve_congr hdecides (decides_of_named hdecides hwho files)
      (ContextStore.sameFor_of_sameBut hsame)

/-- Surroundings with a configuration file that ends too early. -/
def brokenWorld : World where
  env := .ofList [(Environment.dockerConfig, "/docker"), (Environment.dockerHost, "")]
  home := none
  files := ⟨fun path => if path = "/docker/config.json" then .ok [0x7B] else .error .absent,
    fun _ => false⟩

/-- A broken configuration file decides without a context, and does not matter with one. -/
theorem resolve_precedence_broken_config :
    resolve brokenWorld none none =
        .error (.configInvalid "/docker/config.json" (.unreadable .configuration [0x7B])) ∧
      resolve brokenWorld none (some "default") =
        resolve { brokenWorld with files := Files.none } none (some "default") := by
  have hunset : brokenWorld.env.Unset Environment.dockerHost :=
    Environment.var?_eq_none_iff.mp (by decide)
  have hdir : brokenWorld.ConfigDir "/docker" :=
    .configured (Environment.var?_eq_some_iff.mp (by decide))
  have hread : brokenWorld.files.read (configFile "/docker") = .ok [0x7B] := by rfl
  have hpath : configFile "/docker" = "/docker/config.json" := by decide
  have hload : ConfigFile.ofJson (configFile "/docker") [0x7B] =
      .error (.configInvalid "/docker/config.json" (.unreadable .configuration [0x7B])) := by
    rw [hpath]
    rfl
  constructor
  · exact (resolve_precedence brokenWorld none none).2.1
      (.brokenConfig (.configInvalid "/docker/config.json" (.unreadable .configuration [0x7B])))
      (.inDirectory hunset hdir
        (.file (Environment.var?_eq_none_iff.mp (by decide)) (.malformed hread hload)))
  · refine (resolve_precedence brokenWorld none (some "default")).2.2.2.2.2 .caller "/docker"
      "default" _ (.inDirectory hunset hdir (.caller _)) (by decide) ?_
    intro other hother
    exact ⟨if_neg hother, rfl⟩

end Endpoint

end DockerClient
