import DockerClient.Client.Option
import DockerClient.Context.Resolve
import DockerClient.Daemon.Scene

/-
**What a client is going to be**, before anything is sent.

* `Endpoint.select` — the TLS settings of a client: those that are given, those of the environment,
  and those of the context, in this order;
* `ClientPlan`, `ClientPlan.make` — endpoint, headers, link and health check of a client, from its
  options and surroundings;
* `ClientPlan.panic?` — whether there are too many headers for the transport of a client.
-/

set_option relaxedAutoImplicit false
set_option autoImplicit false

namespace DockerClient

/-- The endpoint of a client.  Given settings decide alone; without them the environment can turn
TLS on, and a context that has material does so otherwise. -/
def Endpoint.select (env : Environment) (given : Option (Bool × Option String))
    (resolved : ResolvedEndpoint) : Except Error Endpoint :=
  match given with
  | some (verify, certPath) => Endpoint.make resolved.host verify certPath
  | none =>
      match Endpoint.ofEnv env resolved.host with
      | .error e => .error e
      | .ok fromEnv =>
          match resolved.contextTlsDir with
          | none => .ok fromEnv
          | some dir =>
              if fromEnv.tlsVerify then .ok fromEnv
              else Endpoint.make resolved.host true (some dir)

/-- What a client is going to be. -/
structure ClientPlan where
  endpoint : Endpoint
  source : EndpointSource
  headers : List Header
  span : Span
  link : Link
  check : HealthCheck

namespace ClientPlan

/-- What the messages of a client are attributed to unless it is told. -/
def defaultSpan : Span := ⟨some "docker_client"⟩

/-- The link of a client: the one that was handed over, or a transport of the library. -/
def linkOf (w : World) (given : Option Nat) (endpoint : Endpoint) (headers : List Header) :
    Except Error Link :=
  match given with
  | some handed => .ok (.given handed)
  | none =>
      match Transport.establish w.files endpoint headers w.tls with
      | .error e => .error e
      | .ok transport => .ok (.over transport)

/-- The plan that settings lead to, if there is room for their headers. -/
def ofSettings (w : World) (s : ClientSettings) : Except Error ClientPlan :=
  match Endpoint.resolve w s.host s.context with
  | .error e => .error e
  | .ok resolved =>
      match Endpoint.select w.env s.tls resolved with
      | .error e => .error e
      | .ok endpoint =>
          match linkOf w s.given endpoint s.headerList with
          | .error e => .error e
          | .ok link =>
              .ok
                { endpoint := endpoint, source := resolved.source, headers := s.headerList,
                  span := s.span.getD defaultSpan, link := link, check := s.check }

/-- The plan that options lead to, if there is room for their headers. -/
def make (w : World) (options : List ClientOption) : Except Error ClientPlan :=
  match ClientSettings.ofOptions options with
  | .error e => .error e
  | .ok settings => ofSettings w settings

/-- The panic that settings lead to: a transport of the library has no room for their headers.  A
client whose endpoint is refused, and one with a transport of its caller, does not come so far. -/
def panicOf? (w : World) (s : ClientSettings) : Option String :=
  match Endpoint.resolve w s.host s.context with
  | .error _ => none
  | .ok resolved =>
      match Endpoint.select w.env s.tls resolved with
      | .error _ => none
      | .ok endpoint =>
          match s.given with
          | some _ => none
          | none =>
              match Transport.connect w.tls w.files endpoint s.headerList with
              | .error text => some text
              | .ok _ => none

/-- The panic that options lead to. -/
def panic? (w : World) (options : List ClientOption) : Option String :=
  match ClientSettings.ofOptions options with
  | .error _ => none
  | .ok settings => panicOf? w settings

end ClientPlan

end DockerClient
