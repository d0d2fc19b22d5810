import DockerClient.Environment
import DockerClient.Error.Fault
import DockerClient.Tls.Reader
import DockerClient.World.Files

/-
**The surroundings of a call**: what it can look at and does not change.

* `World` — environment, home directory, files, whether the process runs in a container, and what
  the library is built on: its words, and what it makes of TLS files.
-/

set_option relaxedAutoImplicit false
set_option autoImplicit false

namespace DockerClient

/-- What a call can look at. -/
structure World where
  env : Environment
  home : Option String
  files : Files
  inContainer : Bool := false
  words : Wording := .plain
  tls : TlsLibrary := .pem

end DockerClient
