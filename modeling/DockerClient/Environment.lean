import DockerClient.Text.Ascii

/-
**Environment variables.**

* `Environment` — any assignment of texts to names;
* `Environment.var?` — the value of a variable, an empty one counts as unset;
* `Environment.isTruthy` — set to anything but `0` and `false`;
* `Environment.ofList` — the environment of a list of assignments.
-/

set_option relaxedAutoImplicit false
set_option autoImplicit false

namespace DockerClient

/-- An assignment of texts to variable names. -/
structure Environment where
  value? : String → Option String

namespace Environment

/-- The value of a variable; an empty value counts as unset. -/
def var? (env : Environment) (name : String) : Option String :=
  (env.value? name).filter (· ≠ "")

/-- Whether a variable is set to anything but `0` and, in any case of letters, `false`. -/
def isTruthy (env : Environment) (name : String) : Bool :=
  match env.var? name with
  | some v => !(v == "0" || Text.sameIgnoringCase v "false")
  | none => false

/-- The environment of a list of assignments. -/
def ofList (assignments : List (String × String)) : Environment :=
  ⟨fun name => assignments.lookup name⟩

theorem var?_ne_empty {env : Environment} {name v : String} (h : env.var? name = some v) :
    v ≠ "" := by
  simp only [var?, Option.filter_eq_some_iff, decide_eq_true_eq] at h
  exact h.2

/-! ### The variables that are read -/

/-- Names the endpoint of the daemon, before everything else. -/
def dockerHost : String := "DOCKER_HOST"

/-- Names a stored context. -/
def dockerContext : String := "DOCKER_CONTEXT"

/-- Names the configuration directory. -/
def dockerConfig : String := "DOCKER_CONFIG"

/-- Holds a configuration that replaces the file. -/
def dockerAuthConfig : String := "DOCKER_AUTH_CONFIG"

/-- Turns TLS on. -/
def dockerTlsVerify : String := "DOCKER_TLS_VERIFY"

/-- Names the directory of the TLS files. -/
def dockerCertPath : String := "DOCKER_CERT_PATH"

end Environment

end DockerClient
