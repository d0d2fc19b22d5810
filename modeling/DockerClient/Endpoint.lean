import DockerClient.Error.Basic
import DockerClient.Environment
import DockerClient.Text.Cut
import DockerClient.World.Path

/-
**Endpoints with their TLS settings.**

* `Endpoint` — a host, whether TLS is on, and the directory of the TLS files; TLS is never on
  without a directory, and the directory is never empty, by the type;
* `Endpoint.make`, `Endpoint.ofEnv` — from given settings and from the environment;
* `Endpoint.tlsFiles?` — the files to present, if TLS is on;
* `Endpoint.tlsFiles?_isSome_iff` — **there are files exactly when TLS is on**;
* `Endpoint.namedHost` — the host name in an endpoint that is reached over TCP.
-/

set_option relaxedAutoImplicit false
set_option autoImplicit false

namespace DockerClient

/-- A host with its TLS settings. -/
structure Endpoint where
  host : String
  tlsVerify : Bool
  certPath : Option String
  certPath_ne_empty : certPath ≠ some ""
  certPath_of_tlsVerify : tlsVerify = true → certPath.isSome = true
deriving DecidableEq

/-- The files that a TLS connection presents and trusts. -/
structure TlsFiles where
  ca : String
  cert : String
  key : String
deriving DecidableEq, Repr

namespace Endpoint

/-- A path, unless it is empty. -/
def nonempty (path : Option String) : Option String := path.filter (· ≠ "")

theorem nonempty_ne_empty (path : Option String) : nonempty path ≠ some "" := by
  intro h
  simp [nonempty, Option.filter_eq_some_iff] at h

/-- The endpoint with given settings.  An empty path counts as none, and TLS needs a path. -/
def make (host : String) (tlsVerify : Bool) (certPath : Option String) : Except Error Endpoint :=
  if h : tlsVerify = true → (nonempty certPath).isSome = true then
    .ok ⟨host, tlsVerify, nonempty certPath, nonempty_ne_empty certPath, h⟩
  else .error (.configInvalid Environment.dockerCertPath (.noCertPath host))

/-- The endpoint with the settings of the environment. -/
def ofEnv (env : Environment) (host : String) : Except Error Endpoint :=
  make host (env.isTruthy Environment.dockerTlsVerify) (env.var? Environment.dockerCertPath)

/-- The TLS files of a directory. -/
def filesIn (dir : String) : TlsFiles :=
  ⟨Path.join dir "ca.pem", Path.join dir "cert.pem", Path.join dir "key.pem"⟩

/-- The files to present, if TLS is on. -/
def tlsFiles? (e : Endpoint) : Option TlsFiles :=
  if e.tlsVerify then e.certPath.map filesIn else none

/-- **There are files to present exactly when TLS is on.** -/
theorem tlsFiles?_isSome_iff (e : Endpoint) : e.tlsFiles?.isSome = true ↔ e.tlsVerify = true := by
  unfold tlsFiles?
  by_cases h : e.tlsVerify = true
  · simp [h, e.certPath_of_tlsVerify h]
  · simp [h]

/-! ### Host names -/

/-- The host of an authority `host[:port]`; an address in brackets stands without them. -/
def authorityHost (authority : String) : String :=
  match Text.after? "[" authority with
  | some rest => Text.upTo rest ']'
  | none =>
      match Text.splitLast authority ':' with
      | some (host, _) => host
      | none => authority

/-- The scheme and the rest of a host, an empty scheme if it has none. -/
def schemeAndRest (host : String) : String × String :=
  (Text.splitAt host "://").getD ("", host)

/-- The schemes of endpoints that are reached over TCP. -/
def tcpSchemes : List String := ["tcp", "http", "https"]

/-- The host name that the rest of a TCP endpoint begins with. -/
def namedHost (rest : String) : String := authorityHost (Text.upTo rest '/')

end Endpoint

end DockerClient
