import DockerClient.Http.Authority
import DockerClient.Http.Headers
import DockerClient.Tls.Reader

/-
**Ways to the daemon.**

* `Route` — a socket of the machine, or an authority that is reached over TCP;
* `Route.address`, `Route.isReadable` — where requests go, and whether that can be read;
* `Transport` — a route, with the headers that every request on it carries;
* `Transport.establish` — the transport of an endpoint, with headers that there is room for; nothing
  is sent;
* `Transport.connect` — the same for any number of headers, of which there can be too many;
* `Transport.connect_eq` — **there are too many headers, or there is room for them**.
-/

set_option relaxedAutoImplicit false
set_option autoImplicit false

namespace DockerClient

/-- A way to the daemon. -/
inductive Route where
  | socket (path : String)
  | tcp (authority : String) (tls : Option TlsMaterial)
deriving DecidableEq, Repr

/-- Whether requests on a route go over TCP. -/
def Route.isTcp : Route → Bool
  | .socket _ => false
  | .tcp _ _ => true

/-- Where a route goes. -/
def Route.address : Route → String
  | .socket path => path
  | .tcp authority _ => authority

/-- Whether it can be read where a route goes. -/
def Route.isReadable : Route → Bool
  | .socket _ => true
  | .tcp authority _ => (Authority.ofText? authority).isSome

/-- A route, with the headers that every request on it carries. -/
structure Transport where
  route : Route
  headers : HeaderMap

namespace Transport

/-- The route of a TCP endpoint; an encrypted one needs material. -/
def tcpRoute (lib : TlsLibrary) (files : Files) (endpoint : Endpoint) (scheme rest : String) :
    Except Error Route :=
  let authority := Text.trimEnd rest '/'
  match endpoint.tlsFiles? with
  | some tls =>
      match lib.load files tls with
      | .error e => .error e
      | .ok material => .ok (.tcp authority (some material))
  | none =>
      if scheme = "https" then .error (.configInvalid endpoint.host .noTlsMaterial)
      else .ok (.tcp authority none)

/-- The route of an endpoint, by its scheme. -/
def routeOf (lib : TlsLibrary) (files : Files) (endpoint : Endpoint) : Except Error Route :=
  match Text.splitAt endpoint.host "://" with
  | none => .error (.invalidArgument (.hostWithoutScheme endpoint.host))
  | some (scheme, rest) =>
      if scheme = "unix" then
        if files.present rest then .ok (.socket rest)
        else .error (.daemon (.socketMissing rest))
      else if Endpoint.tcpSchemes.contains scheme then tcpRoute lib files endpoint scheme rest
      else .error (.invalidArgument (.hostScheme endpoint.host))

/-- The transport of an endpoint with a map of headers, whose fault comes first. -/
def withHeaders (lib : TlsLibrary) (files : Files) (endpoint : Endpoint)
    (map : Except Error HeaderMap) : Except Error Transport :=
  match map with
  | .error e => .error e
  | .ok map =>
      match routeOf lib files endpoint with
      | .error e => .error e
      | .ok route => .ok ⟨route, map⟩

/-- The transport of an endpoint, with headers that there is room for. -/
def establish (files : Files) (endpoint : Endpoint) (headers : List Header)
    (lib : TlsLibrary := .pem) : Except Error Transport :=
  withHeaders lib files endpoint (HeaderMap.ofList headers)

/-- The transport of an endpoint; to make room for its headers comes before all else. -/
def connect (lib : TlsLibrary) (files : Files) (endpoint : Endpoint) (headers : List Header) :
    Except String (Except Error Transport) :=
  (HeaderMap.collect headers).map (withHeaders lib files endpoint)

/-- **There are too many headers, or there is room for them.** -/
theorem connect_eq (lib : TlsLibrary) (files : Files) (endpoint : Endpoint)
    (headers : List Header) : connect lib files endpoint headers =
      if HeaderMap.room < headers.length then .error HeaderMap.overflow
      else .ok (establish files endpoint headers lib) := by
  rw [connect, HeaderMap.collect]
  split <;> rfl

end Transport

end DockerClient
