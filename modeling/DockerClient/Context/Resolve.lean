import DockerClient.Context.Store

/-
**Which daemon to talk to.**

* `EndpointSource`, `ResolvedEndpoint` — an endpoint and where it came from;
* `Endpoint.resolve` — picks the endpoint: a given host, `DOCKER_HOST`, a given context,
  `DOCKER_CONTEXT`, the context of the configuration file, the default endpoint, in this order.
-/

set_option relaxedAutoImplicit false
set_option autoImplicit false

namespace DockerClient

/-- Where an endpoint came from. -/
inductive EndpointSource where
  | override
  | envHost
  | context (name : String)
  | default
deriving DecidableEq, Repr

/-- An endpoint, where it came from, and the TLS files that are stored with its context. -/
structure ResolvedEndpoint where
  host : String
  source : EndpointSource
  contextTlsDir : Option String
deriving DecidableEq, Repr

namespace Endpoint

/-- The context to use, if one is named: by the caller, the environment or the configuration. -/
def contextName (w : World) (store : ContextStore) (context : Option String) :
    Except Error (Option String) :=
  match context with
  | some name => .ok (some name)
  | none =>
      match w.env.var? Environment.dockerContext with
      | some name => .ok (some name)
      | none => store.current w.files

/-- The endpoint of a named context, the default one without a name. -/
def ofContext (w : World) (store : ContextStore) : Option String → Except Error ResolvedEndpoint
  | none => .ok ⟨Context.defaultHost, .default, none⟩
  | some name =>
      match store.inspect w.files name with
      | .error e => .error e
      | .ok context => .ok ⟨context.host, .context name, context.tlsDir⟩

/-- Picks the endpoint. -/
def resolve (w : World) (host context : Option String) : Except Error ResolvedEndpoint :=
  match host with
  | some h => .ok ⟨h, .override, none⟩
  | none =>
      match w.env.var? Environment.dockerHost with
      | some h => .ok ⟨h, .envHost, none⟩
      | none =>
          match ContextStore.ofWorld w with
          | .error e => .error e
          | .ok store =>
              match contextName w store context with
              | .error e => .error e
              | .ok name => ofContext w store name

end Endpoint

end DockerClient
