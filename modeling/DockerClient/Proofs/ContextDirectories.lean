import DockerClient.Proofs.ContextDescriptions
import DockerClient.Proofs.Cutting
import DockerClient.Proofs.DigestRules

/-
**Names of contexts stay inside the store.**

The name of a context can be any text, and it decides which files are looked at.  It never gets into
a path itself: its digest does, written in hexadecimal digits, so that every name leads to a
directory of its own right below the store.

* `Text.hexOfBytes_injective`, `Text.length_hexOfBytes` — bytes written in digits;
* `Context.dirName_eq_iff`, `Context.dirName_eq_hexOfBytes_iff` — the directory name of a context;
* `Path.join_name`, `FileTree.names_join` — a name below a directory is one more step of the path;
* `Files.Look`, `Files.Look.run_congr` — **looking at files step by step**: what is found depends on
  nothing but what is looked at;
* `ContextStore.looking`, `ContextStore.accesses_looking` — what is looked at for a context;
* `ContextStore.metaDir_eq_iff` — two names lead to one directory;
* `ContextStore.inspect_confined` — **no name leads out of the store**.
-/

set_option relaxedAutoImplicit false
set_option autoImplicit false

namespace DockerClient

/-! ### Hexadecimal digits -/

namespace Text

theorem mem_hexDigits_of_mem {b : UInt8} {c : Char} (h : c ∈ hexOfByte b) : c ∈ hexDigits := by
  rcases List.mem_pair.mp h with rfl | rfl <;> exact List.getElem_mem _

theorem toList_hexOfBytes (bytes : List UInt8) :
    (hexOfBytes bytes).toList = bytes.flatMap hexOfByte := String.toList_ofList

/-- Every byte has two digits. -/
theorem length_hexOfBytes (bytes : List UInt8) :
    (hexOfBytes bytes).toList.length = 2 * bytes.length := by
  rw [toList_hexOfBytes]
  induction bytes with
  | nil => rfl
  | cons b bytes ih =>
      rw [List.flatMap_cons, List.length_append, length_hexOfByte, ih, List.length_cons]
      omega

theorem mem_hexOfBytes {bytes : List UInt8} {c : Char} (h : c ∈ (hexOfBytes bytes).toList) :
    c ∈ hexDigits := by
  rw [toList_hexOfBytes] at h
  obtain ⟨b, -, hc⟩ := List.mem_flatMap.mp h
  exact mem_hexDigits_of_mem hc

/-- **The digits of bytes determine them.** -/
theorem hexOfBytes_injective {a b : List UInt8} (h : hexOfBytes a = hexOfBytes b) : a = b := by
  have hdigits := congrArg String.toList h
  rw [toList_hexOfBytes, toList_hexOfBytes] at hdigits
  clear h
  induction a generalizing b with
  | nil =>
      cases b with
      | nil => rfl
      | cons y b => cases hdigits
  | cons x a ih =>
      cases b with
      | nil => cases hdigits
      | cons y b =>
          obtain ⟨hfirst, hrest⟩ := List.append_inj hdigits rfl
          rw [hexOfByte_injective hfirst, ih hrest]

theorem hexOfBytes_inj {a b : List UInt8} : hexOfBytes a = hexOfBytes b ↔ a = b :=
  ⟨hexOfBytes_injective, congrArg hexOfBytes⟩

end Text

/-! ### Names in paths -/

/-- A text that can be one step of a path. -/
structure Path.IsName (name : String) : Prop where
  nonempty : name ≠ ""
  notMem : '/' ∉ name.toList

namespace Path

instance (name : String) : Decidable (IsName name) :=
  decidable_of_iff (name ≠ "" ∧ '/' ∉ name.toList) ⟨fun h => ⟨h.1, h.2⟩, fun h => ⟨h.1, h.2⟩⟩

variable {directory name other : String}

/-- What stands between a directory and a name below it. -/
def separator (directory : String) : String :=
  if directory = "" ∨ directory.toList.getLast? = some '/' then "" else "/"

/-- **A name below a directory** follows the directory. -/
theorem join_name (h : IsName name) (directory : String) :
    join directory name = directory ++ separator directory ++ name := by
  have hrelative : name.toList.head? ≠ some '/' := fun hhead =>
    h.notMem (List.mem_of_mem_head? hhead)
  rw [join, if_neg hrelative, separator]
  split <;> simp

/-- Below a name there is a separator. -/
theorem separator_join (h : IsName name) (directory : String) :
    separator (join directory name) = "/" := by
  have hnonempty : name.toList ≠ [] := fun hnil => h.nonempty (String.toList_eq_nil_iff.mp hnil)
  rw [separator, if_neg]
  rintro (hempty | hlast)
  · rw [join_name h] at hempty
    have hlist := congrArg String.toList hempty
    rw [String.toList_append] at hlist
    exact hnonempty (List.append_eq_nil_iff.mp hlist).2
  · rw [join_name h, String.toList_append, List.getLast?_append_of_ne_nil _ hnonempty] at hlast
    exact h.notMem (List.mem_of_getLast? hlast)

theorem join_name_right_inj (h : IsName name) (h' : IsName other) :
    join directory name = join directory other ↔ name = other := by
  rw [join_name h, join_name h', String.append_right_inj]

/-- A path of names below a directory. -/
def joinAll (directory : String) (path : List String) : String := path.foldl join directory

/-- **A path of names below a directory** follows the directory, its names between separators. -/
theorem joinAll_eq {path : List String} (hne : path ≠ []) (h : ∀ name ∈ path, IsName name)
    (directory : String) :
    joinAll directory path = directory ++ separator directory ++ "/".intercalate path := by
  induction path generalizing directory with
  | nil => exact absurd rfl hne
  | cons name path ih =>
      have hname := h name List.mem_cons_self
      cases path with
      | nil =>
          rw [joinAll, List.foldl_cons, List.foldl_nil, join_name hname,
            String.intercalate_singleton]
      | cons next path =>
          have hrest := ih (List.cons_ne_nil next path)
            (fun other hother => h other (List.mem_cons_of_mem name hother)) (join directory name)
          rw [joinAll] at hrest ⊢
          rw [List.foldl_cons, hrest, separator_join hname, join_name hname,
            String.intercalate_cons_cons]
          simp only [String.append_assoc]

/-- A name below two names. -/
theorem join_join_left_inj {a b : String} (ha : IsName a) (hb : IsName b) (h : IsName name) :
    join (join directory a) name = join (join directory b) name ↔
      join directory a = join directory b := by
  rw [join_name h, join_name h, separator_join ha, separator_join hb, String.append_left_inj,
    String.append_left_inj]

end Path

namespace FileTree

/-- **A name below a directory is one more step** of the path. -/
theorem names_join {name : String} (h : Path.IsName name) (directory : String) :
    names (Path.join directory name) = names directory ++ [name] := by
  have hone : [name].filter (fun part => part ≠ "") = [name] := by simp [h.nonempty]
  rw [Path.join_name h, Path.separator]
  split
  · rename_i hseparated
    rcases hseparated with rfl | hlast
    · -- nothing stands before the name
      rw [String.append_empty, String.empty_append, names, Text.pieces_of_notMem h.notMem]
      exact hone
    · -- the directory ends in a separator, after which there is an empty piece
      obtain ⟨before, hbefore⟩ := List.getLast?_eq_some_iff.mp hlast
      have hdirectory : directory = String.ofList before ++ String.singleton '/' ++ "" := by
        rw [← String.toList_inj, hbefore]
        simp
      have hpath : directory ++ "" ++ name =
          String.ofList before ++ String.singleton '/' ++ name := by
        rw [hdirectory]
        simp
      have hend : [""].filter (fun part => part ≠ "") = [] := by decide
      rw [hpath, hdirectory, names, names, Text.pieces_around h.notMem,
        Text.pieces_around (by simp), List.filter_append, List.filter_append, hone, hend,
        List.append_nil]
  · rw [names, names, show "/" = String.singleton '/' from rfl, Text.pieces_around h.notMem,
      List.filter_append]
    exact congrArg _ hone

theorem names_joinAll {path : List String} (h : ∀ name ∈ path, Path.IsName name)
    (directory : String) : names (Path.joinAll directory path) = names directory ++ path := by
  induction path generalizing directory with
  | nil => exact (List.append_nil _).symm
  | cons name path ih =>
      have hrest := ih (fun other hother => h other (List.mem_cons_of_mem name hother))
        (Path.join directory name)
      rw [Path.joinAll] at hrest ⊢
      rw [List.foldl_cons, hrest, names_join (h name List.mem_cons_self), List.append_assoc]
      rfl

end FileTree

/-! ### Names of contexts -/

namespace Context

/-- **The directory name of a context has 64 digits**, whatever the name is. -/
theorem length_dirName (name : String) : (dirName name).toList.length = 64 := by
  rw [dirName, Text.length_hexOfBytes, Vector.length_toList]

theorem mem_dirName {name : String} {c : Char} (h : c ∈ (dirName name).toList) :
    '0' ≤ c ∧ c ≤ '9' ∨ 'a' ≤ c ∧ c ≤ 'f' := by
  have hall : Text.hexDigits.all fun d => '0' ≤ d ∧ d ≤ '9' ∨ 'a' ≤ d ∧ d ≤ 'f' := by decide
  exact of_decide_eq_true (List.all_eq_true.mp hall c (Text.mem_hexOfBytes h))

theorem isName_dirName (name : String) : Path.IsName (dirName name) where
  nonempty hempty := by
    have hlength := length_dirName name
    rw [hempty] at hlength
    exact absurd hlength (by decide)
  notMem hslash := absurd (mem_dirName hslash) (by decide)

/-- **Two contexts share a directory exactly if their names share a digest.** -/
theorem dirName_eq_iff {a b : String} :
    dirName a = dirName b ↔ Sha256.digest (Text.encode a) = Sha256.digest (Text.encode b) := by
  rw [dirName, dirName, Text.hexOfBytes_inj]
  exact Vector.toList_inj

/-- **The directory name stands for the digest by its rules**, and for no other bytes. -/
theorem dirName_eq_hexOfBytes_iff {name : String} {bytes : List UInt8} :
    dirName name = Text.hexOfBytes bytes ↔ Sha256.IsDigest (Text.encode name) bytes := by
  rw [dirName, Text.hexOfBytes_inj, Sha256.isDigest_iff, eq_comm]

set_option maxRecDepth 4000 in
example : dirName "default" =
    "37a8eec1ce19687d132fe29051dca629d164e2c4958ba141d5f4133a33f0688f" := by
  decide +kernel

end Context

/-! ### Paths in the store -/

namespace ContextStore

variable {s : ContextStore} {name other : String}

/-- The steps from the configuration directory to the description of a context. -/
def metaSteps (name : String) : List String :=
  ["contexts", "meta", Context.dirName name, "meta.json"]

/-- The steps from the configuration directory to the file that tells of TLS files. -/
def tlsSteps (name : String) : List String :=
  ["contexts", "tls", Context.dirName name, "docker", "ca.pem"]

theorem isName_of_mem_metaSteps : ∀ step ∈ metaSteps name, Path.IsName step := by
  simp only [metaSteps, List.forall_mem_cons, List.not_mem_nil, false_implies, implies_true,
    and_true]
  exact ⟨by decide, by decide, Context.isName_dirName name, by decide⟩

theorem isName_of_mem_tlsSteps : ∀ step ∈ tlsSteps name, Path.IsName step := by
  simp only [tlsSteps, List.forall_mem_cons, List.not_mem_nil, false_implies, implies_true,
    and_true]
  exact ⟨by decide, by decide, Context.isName_dirName name, by decide, by decide⟩

theorem metaFile_eq_joinAll (s : ContextStore) (name : String) :
    s.metaFile name = Path.joinAll s.configDir (metaSteps name) := by
  simp only [metaFile, metaDir, metaSteps, Path.joinAll, List.foldl_cons, List.foldl_nil]

theorem tlsProbe_eq_joinAll (s : ContextStore) (name : String) :
    s.tlsProbe name = Path.joinAll s.configDir (tlsSteps name) := by
  simp only [tlsProbe, tlsDir, tlsSteps, Path.joinAll, List.foldl_cons, List.foldl_nil]

/-- **The description of a context** is four steps below the configuration directory. -/
theorem names_metaFile (s : ContextStore) (name : String) :
    FileTree.names (s.metaFile name) = FileTree.names s.configDir ++ metaSteps name := by
  rw [metaFile_eq_joinAll, FileTree.names_joinAll isName_of_mem_metaSteps]

theorem names_tlsProbe (s : ContextStore) (name : String) :
    FileTree.names (s.tlsProbe name) = FileTree.names s.configDir ++ tlsSteps name := by
  rw [tlsProbe_eq_joinAll, FileTree.names_joinAll isName_of_mem_tlsSteps]

theorem metaFile_eq (s : ContextStore) (name : String) :
    s.metaFile name = s.configDir ++ Path.separator s.configDir ++
      ("contexts/meta/" ++ Context.dirName name ++ "/meta.json") := by
  have hsteps (digits : String) : "/".intercalate ["contexts", "meta", digits, "meta.json"] =
      "contexts/meta/" ++ digits ++ "/meta.json" := by
    rw [← String.toList_inj]
    simp [String.intercalate_cons_cons]
  have hne : metaSteps name ≠ [] := List.cons_ne_nil _ _
  rw [metaFile_eq_joinAll, Path.joinAll_eq hne isName_of_mem_metaSteps, metaSteps, hsteps]

theorem tlsProbe_eq (s : ContextStore) (name : String) :
    s.tlsProbe name = s.configDir ++ Path.separator s.configDir ++
      ("contexts/tls/" ++ Context.dirName name ++ "/docker/ca.pem") := by
  have hsteps (digits : String) : "/".intercalate ["contexts", "tls", digits, "docker", "ca.pem"] =
      "contexts/tls/" ++ digits ++ "/docker/ca.pem" := by
    rw [← String.toList_inj]
    simp [String.intercalate_cons_cons]
  have hne : tlsSteps name ≠ [] := List.cons_ne_nil _ _
  rw [tlsProbe_eq_joinAll, Path.joinAll_eq hne isName_of_mem_tlsSteps, tlsSteps, hsteps]

/-- **Two names lead to one directory exactly if they share a digest.** -/
theorem metaDir_eq_iff :
    s.metaDir other = s.metaDir name ↔
      Sha256.digest (Text.encode other) = Sha256.digest (Text.encode name) := by
  rw [metaDir, metaDir, Path.join_name_right_inj (Context.isName_dirName other)
    (Context.isName_dirName name), Context.dirName_eq_iff]

theorem tlsDir_eq_iff :
    s.tlsDir other = s.tlsDir name ↔
      Sha256.digest (Text.encode other) = Sha256.digest (Text.encode name) := by
  rw [tlsDir, tlsDir, Path.join_join_left_inj (Context.isName_dirName other)
    (Context.isName_dirName name) (by decide), Path.join_name_right_inj
    (Context.isName_dirName other) (Context.isName_dirName name), Context.dirName_eq_iff]

end ContextStore

/-! ### Looking at files -/

/-- One look at a file system. -/
inductive Files.Access where
  | read (path : String)
  | probe (path : String)
deriving DecidableEq, Repr

/-- **Looking at files step by step**: what is looked at next may depend on what was seen. -/
inductive Files.Look (α : Type) where
  | done (result : α)
  | read (path : String) (next : Except ReadFailure (List UInt8) → Look α)
  | probe (path : String) (next : Bool → Look α)

namespace Files.Look

variable {α : Type}

/-- What comes of it in a file system. -/
def run (files : Files) : Look α → α
  | .done result => result
  | .read path next => (next (files.read path)).run files
  | .probe path next => (next (files.present path)).run files

/-- What is looked at in a file system, in this order. -/
def accesses (files : Files) : Look α → List Access
  | .done _ => []
  | .read path next => .read path :: (next (files.read path)).accesses files
  | .probe path next => .probe path :: (next (files.present path)).accesses files

/-- Two file systems show the same at one look. -/
def SameAt (f g : Files) : Access → Prop
  | .read path => f.read path = g.read path
  | .probe path => f.present path = g.present path

/-- **What is found depends on nothing but what is looked at**, and so does what is looked at. -/
theorem run_congr {f g : Files} (look : Look α)
    (h : ∀ access ∈ look.accesses f, SameAt f g access) :
    look.run f = look.run g ∧ look.accesses f = look.accesses g := by
  induction look with
  | done result => exact ⟨rfl, rfl⟩
  | read path next ih =>
      have hsame : f.read path = g.read path := h (.read path) List.mem_cons_self
      obtain ⟨hrun, haccesses⟩ := ih (f.read path) fun access haccess =>
        h access (List.mem_cons_of_mem _ haccess)
      rw [run, run, accesses, accesses, ← hsame]
      exact ⟨hrun, congrArg _ haccesses⟩
  | probe path next ih =>
      have hsame : f.present path = g.present path := h (.probe path) List.mem_cons_self
      obtain ⟨hrun, haccesses⟩ := ih (f.present path) fun access haccess =>
        h access (List.mem_cons_of_mem _ haccess)
      rw [run, run, accesses, accesses, ← hsame]
      exact ⟨hrun, congrArg _ haccesses⟩

end Files.Look

namespace ContextStore

/-- **Looking for a context**, step by step. -/
def looking (s : ContextStore) (name : String) : Files.Look (Except Error DockerContext) :=
  if name = Context.defaultName then .done (.ok ⟨name, Context.defaultHost, false, none⟩)
  else .read (s.metaFile name) fun
    | .error .absent => .done (.error (.contextNotFound name (s.metaDir name)))
    | .error .failed => .done (.error (.io (s.metaFile name)))
    | .ok bytes =>
        match ContextMeta.ofJson? bytes with
        | none => .done (.error (.configInvalid (s.metaFile name) (.unreadable .context bytes)))
        | some m =>
            match endpointOf m name with
            | .error fault => .done (.error (.configInvalid (s.metaFile name) fault))
            | .ok endpoint => .probe (s.tlsProbe name) fun present =>
                .done (.ok ⟨m.name, endpoint.host, endpoint.skipTlsVerify,
                  if present then some (s.tlsDir name) else none⟩)

variable {s : ContextStore} {name other : String}

/-- Looking step by step is reading the context. -/
theorem run_looking (s : ContextStore) (files : Files) (name : String) :
    (s.looking name).run files = s.inspect files name := by
  unfold looking inspect
  split
  · rfl
  · rw [Files.Look.run]
    cases files.read (s.metaFile name) with
    | error failure => cases failure <;> rfl
    | ok bytes =>
        dsimp only
        cases ContextMeta.ofJson? bytes with
        | none => rfl
        | some m =>
            dsimp only
            cases endpointOf m name <;> rfl

/-- **What is looked at for a context**: nothing for the default one, the description of any other
one, and whether there are TLS files only for one that is accepted. -/
theorem accesses_looking (s : ContextStore) (files : Files) (name : String) :
    (s.looking name).accesses files =
      if name = Context.defaultName then []
      else .read (s.metaFile name) ::
        match s.inspect files name with
        | .ok _ => [.probe (s.tlsProbe name)]
        | .error _ => [] := by
  unfold looking inspect
  split
  · rfl
  · rw [Files.Look.accesses]
    cases files.read (s.metaFile name) with
    | error failure => cases failure <;> rfl
    | ok bytes =>
        dsimp only
        cases ContextMeta.ofJson? bytes with
        | none => rfl
        | some m =>
            dsimp only
            cases endpointOf m name <;> rfl

/-- Nothing outside the store is looked at. -/
theorem mem_accesses_looking {files : Files} {access : Files.Access}
    (h : access ∈ (s.looking name).accesses files) :
    access = .read (s.metaFile name) ∨ access = .probe (s.tlsProbe name) := by
  rw [accesses_looking] at h
  split at h
  · cases h
  · rcases List.mem_cons.mp h with rfl | h
    · exact .inl rfl
    · split at h
      · exact .inr (List.mem_singleton.mp h)
      · cases h

/-- **A context that is accepted is the one that the description names**, whatever other names lead
to the same directory. -/
theorem name_eq_of_inspect {files : Files} {c : DockerContext}
    (hdir : s.metaDir other = s.metaDir name) (hother : other ≠ Context.defaultName)
    (h : s.inspect files other = .ok c) :
    ∃ bytes m, files.read (s.metaFile name) = .ok bytes ∧ ContextMeta.IsWritten bytes m ∧
      m.name = other := by
  obtain ⟨endpoint, hdescribes, -⟩ := (inspect_eq_ok_iff hother).mp h
  obtain ⟨bytes, hread, hcomplete⟩ := describes_iff.mp hdescribes
  obtain ⟨hwritten, hname, -, -⟩ := hcomplete
  have hfile : s.metaFile other = s.metaFile name := by rw [metaFile, metaFile, hdir]
  exact ⟨bytes, _, hfile ▸ hread, hwritten, hname⟩

/-! ### Names stay inside -/

/-- **No name of a context leads out of the store.**  The directory name of a context has 64 digits
and stands for the digest of the name.  What is looked at is the description and the probe for TLS
files in the directories of that name, a fixed number of steps below the configuration directory.
Two names lead to the same directories exactly if they share a digest, and of those that do, only
the one that the description gives is accepted. -/
theorem inspect_confined (s : ContextStore) (name : String) :
    ((Context.dirName name).toList.length = 64 ∧
      (∀ c ∈ (Context.dirName name).toList, '0' ≤ c ∧ c ≤ '9' ∨ 'a' ≤ c ∧ c ≤ 'f') ∧
      Context.dirName name = Text.hexOfBytes (Sha256.digest (Text.encode name)).toList ∧
      (∀ bytes, Context.dirName name = Text.hexOfBytes bytes ↔
        Sha256.IsDigest (Text.encode name) bytes) ∧
      ∀ bytes bytes', Text.hexOfBytes bytes = Text.hexOfBytes bytes' ↔ bytes = bytes') ∧
    (s.metaFile name = s.configDir ++ Path.separator s.configDir ++
        ("contexts/meta/" ++ Context.dirName name ++ "/meta.json") ∧
      s.tlsProbe name = s.configDir ++ Path.separator s.configDir ++
        ("contexts/tls/" ++ Context.dirName name ++ "/docker/ca.pem") ∧
      FileTree.names (s.metaFile name) =
        FileTree.names s.configDir ++ ["contexts", "meta", Context.dirName name, "meta.json"] ∧
      FileTree.names (s.tlsProbe name) =
        FileTree.names s.configDir ++
          ["contexts", "tls", Context.dirName name, "docker", "ca.pem"]) ∧
    (∀ files, (s.looking name).run files = s.inspect files name ∧
      ∀ access ∈ (s.looking name).accesses files,
        access = .read (s.metaFile name) ∨ access = .probe (s.tlsProbe name)) ∧
    (∀ files files', files.read (s.metaFile name) = files'.read (s.metaFile name) →
      files.present (s.tlsProbe name) = files'.present (s.tlsProbe name) →
      s.inspect files name = s.inspect files' name) ∧
    (∀ other, (s.metaDir other = s.metaDir name ↔
        Sha256.digest (Text.encode other) = Sha256.digest (Text.encode name)) ∧
      (s.tlsDir other = s.tlsDir name ↔
        Sha256.digest (Text.encode other) = Sha256.digest (Text.encode name))) ∧
    ∀ files other c, s.metaDir other = s.metaDir name → other ≠ "default" →
      s.inspect files other = .ok c →
      ∃ bytes m, files.read (s.metaFile name) = .ok bytes ∧ ContextMeta.IsWritten bytes m ∧
        m.name = other := by
  refine ⟨?_, ?_, ?_, ?_, ?_, ?_⟩
  · exact ⟨Context.length_dirName name, fun _ => Context.mem_dirName, rfl,
      fun _ => Context.dirName_eq_hexOfBytes_iff, fun _ _ => Text.hexOfBytes_inj⟩
  · exact ⟨metaFile_eq s name, tlsProbe_eq s name, names_metaFile s name, names_tlsProbe s name⟩
  · intro files
    exact ⟨run_looking s files name, fun _ => mem_accesses_looking⟩
  · intro files files' hread hpresent
    rw [← run_looking, ← run_looking]
    refine ((s.looking name).run_congr fun access haccess => ?_).1
    rcases mem_accesses_looking haccess with rfl | rfl
    · exact hread
    · exact hpresent
  · intro other
    exact ⟨metaDir_eq_iff, tlsDir_eq_iff⟩
  · intro files other c hdir hother h
    exact name_eq_of_inspect hdir hother h

/-- A context that is accepted is the one that the description in its directory names. -/
theorem inspect_confined_far :
    "far" ≠ "default" ∧ ∃ bytes m,
      describedWorld.files.read ((mk "/c").metaFile "far") = .ok bytes ∧
        ContextMeta.IsWritten bytes m ∧ m.name = "far" := by
  obtain ⟨-, -, -, -, -, haccepted⟩ := inspect_confined (mk "/c") "far"
  have hname : "far" ≠ "default" := by decide
  exact ⟨hname, haccepted describedWorld.files "far" _ rfl hname inspect_far⟩

end ContextStore

end DockerClient
