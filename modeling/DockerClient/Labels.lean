import DockerClient.Table

/-
**Provenance labels**, attached to every resource that the library creates.

* `Labels.base` and the other keys; `Labels.provenance` — the labels of the library;
* `Labels.merge` — a caller's labels under the provenance labels;
* `Labels.isOurs` — whether labels mark a resource of the library.
-/

set_option relaxedAutoImplicit false
set_option autoImplicit false

namespace DockerClient.Labels

/-- Marks a resource of the library. -/
def base : String := "com.docker.sdk"

/-- Names the language of the library. -/
def lang : String := "com.docker.sdk.lang"

/-- Names the version of the library. -/
def version : String := "com.docker.sdk.version"

/-- Marks a network. -/
def network : String := "com.docker.sdk.network"

/-- Marks a volume. -/
def volume : String := "com.docker.sdk.volume"

/-- The version that the labels and the user agent carry. -/
def currentVersion : String := "0.1.0"

/-- The labels that every created resource carries. -/
def provenance : Table String :=
  Table.ofList [(base, "true"), (lang, "rust"), (version, currentVersion)]

/-- The caller's labels, the provenance labels over them, and the component's label over all. -/
def merge (user : Table String) (component componentVersion : String) : Table String :=
  (user.union provenance).insert component componentVersion

/-- Whether labels mark a resource of the library. -/
def isOurs (labels : Table String) : Bool :=
  labels.get? base == some "true"

end DockerClient.Labels
