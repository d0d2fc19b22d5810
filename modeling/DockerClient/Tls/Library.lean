import DockerClient.Endpoint
import DockerClient.World.Files

/-
**TLS material**: what a client trusts and presents, and how it is loaded.

What certificates and keys look like is up to a TLS library, of which the four functions are taken
that a client calls; everything here holds for any of them.

* `TlsKey`, `TlsMaterial` — a private key; trusted certificates, a chain and its key;
* `TlsLibrary` — what a TLS library makes of the contents of files;
* `TlsLibrary.load` — reads the three files, and the first fault decides;
* `TlsLibrary.Loads`, `TlsLibrary.load_eq_ok_iff` — **which material is loaded from the files**.
-/

set_option relaxedAutoImplicit false
set_option autoImplicit false

namespace DockerClient

/-! ### Material -/

/-- The three ways to write down a private key. -/
inductive TlsKey where
  | pkcs1 (content : List UInt8)
  | sec1 (content : List UInt8)
  | pkcs8 (content : List UInt8)
deriving DecidableEq, Repr

/-- What a client trusts and presents. -/
structure TlsMaterial where
  roots : List (List UInt8)
  chain : List (List UInt8)
  key : TlsKey
deriving DecidableEq, Repr

/-- What a TLS library makes of the contents of files; what it refuses, it refuses in its words. -/
structure TlsLibrary where
  /-- The certificates of a file one after the other, and what could not be read among them. -/
  certificates : List UInt8 → List (Except String (List UInt8))
  /-- Whether a certificate can be trusted. -/
  trust : List UInt8 → Except String Unit
  /-- The first private key of a file, if it has one. -/
  privateKey : List UInt8 → Except String (Option TlsKey)
  /-- Whether a chain can be presented with a key. -/
  present : List (List UInt8) → TlsKey → Except String Unit

namespace TlsLibrary

variable (lib : TlsLibrary) (files : Files)

/-! ### Loading -/

/-- The content of a file. -/
def contentOf (path : String) : Except Error (List UInt8) :=
  match files.read path with
  | .ok content => .ok content
  | .error _ => .error (.io path)

/-- What the library refuses is wrong with a file. -/
def about {α : Type} (path : String) : Except String α → Except Error α
  | .ok a => .ok a
  | .error reason => .error (.configInvalid path (.described reason))

/-- Takes certificates one after the other, each of which has to pass a check. -/
def collect (check : List UInt8 → Except String Unit) (path : String) :
    List (Except String (List UInt8)) → Except Error (List (List UInt8))
  | [] => .ok []
  | found :: rest => do
      let certificate ← about path found
      about path (check certificate)
      let others ← collect check path rest
      pure (certificate :: others)

/-- The trusted certificates of a file, of which there has to be one. -/
def rootsOf (path : String) : Except Error (List (List UInt8)) := do
  let content ← contentOf files path
  let roots ← collect lib.trust path (lib.certificates content)
  if roots.isEmpty then throw (.configInvalid path .noCaCertificate) else pure roots

/-- The certificates of a file that are presented. -/
def chainOf (path : String) : Except Error (List (List UInt8)) := do
  let content ← contentOf files path
  collect (fun _ => .ok ()) path (lib.certificates content)

/-- The private key of a file. -/
def keyOf (path : String) : Except Error TlsKey := do
  let content ← contentOf files path
  match ← about path (lib.privateKey content) with
  | some key => pure key
  | none => throw (.configInvalid path .noPrivateKey)

/-- The material of three files; a key that can not be presented with its chain is a fault of the
chain. -/
def load (tls : TlsFiles) : Except Error TlsMaterial := do
  let roots ← lib.rootsOf files tls.ca
  let chain ← lib.chainOf files tls.cert
  let key ← lib.keyOf files tls.key
  about tls.cert (lib.present chain key)
  pure ⟨roots, chain, key⟩

/-! ### What is loaded -/

/-- **The material of three files.** -/
structure Loads (tls : TlsFiles) (material : TlsMaterial) : Prop where
  /-- What is trusted are the certificates of the first file: all of them, and at least one. -/
  roots : ∃ content, files.read tls.ca = .ok content ∧
    lib.certificates content = material.roots.map .ok
  trusted : ∀ certificate ∈ material.roots, lib.trust certificate = .ok ()
  some_root : material.roots ≠ []
  /-- What is presented are the certificates of the second file, with the key of the third. -/
  chain : ∃ content, files.read tls.cert = .ok content ∧
    lib.certificates content = material.chain.map .ok
  key : ∃ content, files.read tls.key = .ok content ∧
    lib.privateKey content = .ok (some material.key)
  presented : lib.present material.chain material.key = .ok ()

/-! ### Successes -/

variable {lib files} {path : String}

theorem bind_eq_ok_iff {α β : Type} {x : Except Error α} {f : α → Except Error β} {b : β} :
    (x >>= f) = .ok b ↔ ∃ a, x = .ok a ∧ f a = .ok b := by
  cases x with
  | ok a => simp [Bind.bind, Except.bind]
  | error e => simp [Bind.bind, Except.bind]

theorem contentOf_eq_ok_iff {content : List UInt8} :
    contentOf files path = .ok content ↔ files.read path = .ok content := by
  rw [contentOf]
  cases files.read path <;> simp

theorem about_eq_ok_iff {α : Type} {x : Except String α} {a : α} :
    about path x = .ok a ↔ x = .ok a := by
  cases x <;> simp [about]

/-- Certificates are taken exactly if each could be read and passes the check. -/
theorem collect_eq_ok_iff {check : List UInt8 → Except String Unit}
    {found : List (Except String (List UInt8))} {taken : List (List UInt8)} :
    collect check path found = .ok taken ↔
      found = taken.map .ok ∧ ∀ certificate ∈ taken, check certificate = .ok () := by
  induction found generalizing taken with
  | nil => cases taken <;> simp [collect]
  | cons first rest ih =>
      simp only [collect, bind_eq_ok_iff, about_eq_ok_iff, ih]
      constructor
      · rintro ⟨certificate, hfirst, ⟨⟩, hcheck, others, ⟨hrest, hothers⟩, htaken⟩
        cases htaken
        rw [hfirst, hrest, List.forall_mem_cons]
        exact ⟨rfl, hcheck, hothers⟩
      · rintro ⟨hfound, hchecked⟩
        cases taken with
        | nil => cases hfound
        | cons certificate others =>
            obtain ⟨hcheck, hothers⟩ := List.forall_mem_cons.mp hchecked
            rw [List.map_cons, List.cons.injEq] at hfound
            exact ⟨certificate, hfound.1, (), hcheck, others, ⟨hfound.2, hothers⟩, rfl⟩

theorem rootsOf_eq_ok_iff {roots : List (List UInt8)} :
    lib.rootsOf files path = .ok roots ↔
      (∃ content, files.read path = .ok content ∧ lib.certificates content = roots.map .ok) ∧
        (∀ certificate ∈ roots, lib.trust certificate = .ok ()) ∧ roots ≠ [] := by
  simp only [rootsOf, bind_eq_ok_iff, contentOf_eq_ok_iff, collect_eq_ok_iff]
  constructor
  · rintro ⟨content, hread, found, ⟨hfound, htrusted⟩, hnonempty⟩
    cases found with
    | nil => cases hnonempty
    | cons =>
        cases hnonempty
        exact ⟨⟨content, hread, hfound⟩, htrusted, List.cons_ne_nil _ _⟩
  · rintro ⟨⟨content, hread, hfound⟩, htrusted, hne⟩
    refine ⟨content, hread, roots, ⟨hfound, htrusted⟩, ?_⟩
    rw [if_neg (by simpa using hne)]
    rfl

theorem chainOf_eq_ok_iff {chain : List (List UInt8)} :
    lib.chainOf files path = .ok chain ↔
      ∃ content, files.read path = .ok content ∧ lib.certificates content = chain.map .ok := by
  simp [chainOf, bind_eq_ok_iff, contentOf_eq_ok_iff, collect_eq_ok_iff]

theorem keyOf_eq_ok_iff {key : TlsKey} :
    lib.keyOf files path = .ok key ↔
      ∃ content, files.read path = .ok content ∧ lib.privateKey content = .ok (some key) := by
  simp only [keyOf, bind_eq_ok_iff, contentOf_eq_ok_iff, about_eq_ok_iff]
  refine exists_congr fun content => and_congr_right fun _ => ?_
  constructor
  · rintro ⟨found, hfound, hkey⟩
    cases found with
    | none => cases hkey
    | some key' =>
        cases hkey
        exact hfound
  · intro h
    exact ⟨some key, h, rfl⟩

/-- **The material that is loaded**, file by file. -/
theorem load_eq_ok_iff {tls : TlsFiles} {material : TlsMaterial} :
    lib.load files tls = .ok material ↔ lib.Loads files tls material := by
  simp only [load, bind_eq_ok_iff, rootsOf_eq_ok_iff, chainOf_eq_ok_iff, keyOf_eq_ok_iff,
    about_eq_ok_iff]
  constructor
  · rintro ⟨roots, ⟨hroots, htrusted, hne⟩, chain, hchain, key, hkey, ⟨⟩, hpresent, hmaterial⟩
    cases hmaterial
    exact ⟨hroots, htrusted, hne, hchain, hkey, hpresent⟩
  · intro h
    exact ⟨_, ⟨h.roots, h.trusted, h.some_root⟩, _, h.chain, _, h.key, (), h.presented, rfl⟩

end TlsLibrary

end DockerClient
