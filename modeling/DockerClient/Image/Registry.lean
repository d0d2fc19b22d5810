import DockerClient.Text.Cut

/-
**Registries.**

A registry is written with or without a scheme, and the public hub has several names.

* `Registry.splitScheme`, `Registry.host` — a registry without its scheme;
* `Registry.normalize` — one name for the hub, every other registry as it is;
* `Registry.authKey` — the host under which credentials for a registry are kept;
* `Registry.serverUrl` — what a credential helper is asked about;
* `Registry.normalize_normalize` — **normalizing twice is normalizing once**.
-/

set_option relaxedAutoImplicit false
set_option autoImplicit false

namespace DockerClient.Registry

/-- The registry of references that name none, and the one name of the hub. -/
def hub : String := "index.docker.io"

/-- The names of the hub. -/
def hubNames : List String := ["docker.io", "index.docker.io", "registry-1.docker.io"]

/-- The schemes a registry may be written with. -/
def schemes : List String := ["http://", "https://"]

/-- The scheme of a text, empty if it has none, and the rest. -/
def splitScheme (s : String) : String × String :=
  match Text.after? "http://" s with
  | some rest => ("http://", rest)
  | none =>
      match Text.after? "https://" s with
      | some rest => ("https://", rest)
      | none => ("", s)

/-- A registry without its scheme. -/
def host (registry : String) : String := (splitScheme registry).2

/-- The one name of the hub for each of its names, every other registry as it is. -/
def normalize (registry : String) : String :=
  if host registry ∈ hubNames then hub else registry

/-- The host under which credentials for a registry are kept: neither scheme nor path, and one
name for the hub. -/
def authKey (registry : String) : String :=
  normalize (Text.upTo (host registry) '/')

/-- What a credential helper is asked about for a host. -/
def serverUrl (host : String) : String :=
  if host = hub then "https://index.docker.io/v1/" else host

/-- Whether the first part of a reference is a registry and not a part of the repository. -/
def looksLikeRegistry (part : String) : Bool :=
  part.toList.contains '.' || part.toList.contains ':' || part == "localhost"

@[simp] theorem normalize_hub : normalize hub = hub := by
  unfold normalize; split <;> rfl

/-- **Normalizing twice is normalizing once.** -/
@[simp] theorem normalize_normalize (registry : String) :
    normalize (normalize registry) = normalize registry := by
  by_cases h : host registry ∈ hubNames
  · have : normalize registry = hub := if_pos h
    rw [this, normalize_hub]
  · have : normalize registry = registry := if_neg h
    rw [this, this]

end DockerClient.Registry
