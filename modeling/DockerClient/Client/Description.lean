import DockerClient.Context.Resolve
import DockerClient.Endpoint
import DockerClient.Text.Quoted

/-
**Texts of a client for programmers.**

* `Endpoint.debugText`, `EndpointSource.debugText` — an endpoint, and where it came from;
* `ClientText.describe` — a client, whose headers and link are not shown.
-/

set_option relaxedAutoImplicit false
set_option autoImplicit false

namespace DockerClient

/-- The text of an endpoint for programmers. -/
def Endpoint.debugText (e : Endpoint) : String :=
  "EndpointConfig \x7b host: " ++ Text.quote e.host
    ++ ", tls_verify: " ++ (if e.tlsVerify then "true" else "false")
    ++ ", cert_path: " ++ Text.optional (e.certPath.map Text.quotePath) ++ " \x7d"

/-- The text of a source for programmers. -/
def EndpointSource.debugText : EndpointSource → String
  | .override => "Override"
  | .envHost => "EnvHost"
  | .context name => "Context(" ++ Text.quote name ++ ")"
  | .default => "Default"

/-- The text of a client for programmers. -/
def ClientText.describe (endpoint : Endpoint) (source : EndpointSource) : String :=
  "Client \x7b endpoint: " ++ endpoint.debugText ++ ", source: " ++ source.debugText ++ ", .. \x7d"

end DockerClient
