/-
**Credentials** for a registry.

* `Credentials` — a user and a secret; without a user the secret is an identity token;
* `DockerCredentials`, `Credentials.toDocker` — the form that the daemon takes them in.
-/

set_option relaxedAutoImplicit false
set_option autoImplicit false

namespace DockerClient

/-- A user and a secret; a secret without a user is an identity token. -/
structure Credentials where
  username : String := ""
  secret : String := ""
deriving DecidableEq, Repr

/-- Whether there is neither user nor secret. -/
def Credentials.isEmpty (c : Credentials) : Bool := c.username == "" && c.secret == ""

/-- Credentials in the form that the daemon takes them in. -/
structure DockerCredentials where
  username : Option String := none
  password : Option String := none
  auth : Option String := none
  email : Option String := none
  serverAddress : Option String := none
  identityToken : Option String := none
  registryToken : Option String := none
deriving DecidableEq, Repr

/-- A text, unless it is empty. -/
def nonemptyText (s : String) : Option String := if s = "" then none else some s

/-- The form that the daemon takes credentials for a server in. -/
def Credentials.toDocker (c : Credentials) (server : String) : DockerCredentials :=
  if c.username = "" then
    { identityToken := nonemptyText c.secret, serverAddress := some server }
  else
    { username := nonemptyText c.username, password := nonemptyText c.secret,
      serverAddress := some server }

end DockerClient
