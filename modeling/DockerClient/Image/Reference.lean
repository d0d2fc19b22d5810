import DockerClient.Image.Digest
import DockerClient.Image.Registry

/-
**Image references**: `[registry/]repository[:tag][@digest]`.

* `Reference`, `Reference.parse`, `Reference.format` — the parts, reading and writing;
* `Reference.splitDigest`, `Reference.splitRegistry`, `Reference.splitTag` — the three cuts that
  reading consists of: at the first `@`, at the first `/` after something that looks like a
  registry, and at the first `:` of the last path segment;
* `Reference.registryHost` — the registry without its scheme.
-/

set_option relaxedAutoImplicit false
set_option autoImplicit false

namespace DockerClient

/-- The parts of an image reference.  Tag and digest are independent of each other. -/
structure Reference where
  registry : String
  repository : String
  tag : Option String
  digest : Option String
deriving DecidableEq, Repr

namespace Reference

/-! ### Cuts -/

/-- The name and the digest of a reference. -/
def splitDigest (s : String) : String × Option String :=
  match Text.splitFirst s '@' with
  | some (name, digest) => (name, some digest)
  | none => (s, none)

/-- The registry, with its scheme, and the rest of a name.  A name with a scheme has a registry
up to the first `/`; without a `/` it has neither. -/
def splitRegistry (name : String) : Option (String × String) :=
  let (scheme, rest) := Registry.splitScheme name
  match Text.splitFirst rest '/' with
  | some (first, tail) =>
      if scheme ≠ "" ∨ Registry.looksLikeRegistry first then some (scheme ++ first, tail)
      else some (Registry.hub, rest)
  | none => if scheme ≠ "" then none else some (Registry.hub, rest)

/-- The repository and the tag; only the last path segment can have a tag. -/
def splitTag (rest : String) : String × Option String :=
  match Text.splitLast rest '/' with
  | some (path, last) =>
      match Text.splitFirst last ':' with
      | some (name, tag) => (path ++ "/" ++ name, some tag)
      | none => (rest, none)
  | none =>
      match Text.splitFirst rest ':' with
      | some (name, tag) => (name, some tag)
      | none => (rest, none)

/-- Whether a repository has an empty path segment. -/
def hasEmptySegment (repository : String) : Bool :=
  (Text.pieces repository '/').any (· == "")

/-! ### Reading and writing -/

/-- Reads the name of a reference `s`, whose digest has been cut off. -/
def parseName (s name : String) (digest : Option String) : Except Error Reference :=
  match splitRegistry name with
  | none => .error (.invalidArgument (.schemeWithoutRepository s))
  | some (registry, rest) =>
      let (repository, tag) := splitTag rest
      if hasEmptySegment repository then .error (.invalidArgument (.invalidRepository s))
      else if tag = some "" then .error (.invalidArgument (.emptyTag s))
      else .ok ⟨Registry.normalize registry, repository, tag, digest⟩

/-- Reads an image reference. -/
def parse (s : String) : Except Error Reference :=
  if s = "" then .error (.invalidArgument .emptyReference)
  else
    match splitDigest s with
    | (name, none) => parseName s name none
    | (name, some digest) =>
        match Digest.check digest with
        | .error e => .error e
        | .ok () => parseName s name (some digest)

/-- Writes an image reference; the registry is always written. -/
def format (r : Reference) : String :=
  r.registry ++ "/" ++ r.repository
    ++ (match r.tag with | some tag => ":" ++ tag | none => "")
    ++ (match r.digest with | some digest => "@" ++ digest | none => "")

/-- The registry without its scheme, which credentials are kept under. -/
def registryHost (r : Reference) : String := Registry.host r.registry

end Reference

end DockerClient
