import DockerClient.Config.Load
import DockerClient.Hash.Sha256
import DockerClient.Text.Ascii

/-
**The context store.**

A context names a daemon.  Below the configuration directory, `contexts/meta/<digest>/meta.json`
describes it and `contexts/tls/<digest>/docker` holds its TLS files, where the digest is that of
its name.

* `Context.dirName` — the directory name of a context;
* `ContextStore.metaDir`, `ContextStore.tlsDir` — its two directories;
* `ContextMeta` — what `meta.json` says;
* `ContextStore.inspect` — reads a context; `default` always exists and is not stored;
* `ContextStore.current` — the context that the configuration file selects.
-/

set_option relaxedAutoImplicit false
set_option autoImplicit false

namespace DockerClient

open Json (Raw)

/-! ### Names -/

namespace Context

/-- The context that always exists. -/
def defaultName : String := "default"

/-- The endpoint of the context that always exists. -/
def defaultHost : String := "unix:///var/run/docker.sock"

/-- The directory name of a context: the digits of the digest of its name. -/
def dirName (name : String) : String :=
  Text.hexOfBytes (Sha256.digest (Text.encode name)).toList

end Context

/-! ### Descriptions -/

/-- One endpoint of a context. -/
structure EndpointMeta where
  host : String
  skipTlsVerify : Bool
deriving DecidableEq, Repr

/-- The description of a context. -/
structure ContextMeta where
  name : String
  endpoints : Table EndpointMeta

/-- The endpoint of a written record. -/
def EndpointMeta.ofRaw? (raw : Raw) : Option EndpointMeta :=
  match Json.Record.fields? ["Host", "SkipTLSVerify"] raw with
  | some [host, skip] => do
      let host ← Json.required Raw.string? host
      let skip ← Json.defaulted Raw.bool? false skip
      some ⟨host, skip⟩
  | _ => none

/-- The description of a written record. -/
def ContextMeta.ofRaw? (raw : Raw) : Option ContextMeta :=
  match Json.Record.fields? ["Name", "Endpoints"] raw with
  | some [name, endpoints] => do
      let name ← Json.required Raw.string? name
      let endpoints ← Json.defaulted (Raw.table? EndpointMeta.ofRaw?) Table.empty endpoints
      some ⟨name, endpoints⟩
  | _ => none

/-- A description from bytes. -/
def ContextMeta.ofJson? (bytes : List UInt8) : Option ContextMeta :=
  match Raw.read bytes with
  | .ok raw => ContextMeta.ofRaw? raw
  | .error _ => none

/-! ### The store -/

/-- A context as it is used. -/
structure DockerContext where
  name : String
  host : String
  skipTlsVerify : Bool
  tlsDir : Option String
deriving DecidableEq, Repr

/-- The contexts below a configuration directory. -/
structure ContextStore where
  configDir : String

namespace ContextStore

/-- The store of the surroundings. -/
def ofWorld (w : World) : Except Error ContextStore :=
  (Config.directory w).map ContextStore.mk

/-- The directory of a context's description. -/
def metaDir (s : ContextStore) (name : String) : String :=
  Path.join (Path.join (Path.join s.configDir "contexts") "meta") (Context.dirName name)

/-- The file of a context's description. -/
def metaFile (s : ContextStore) (name : String) : String :=
  Path.join (s.metaDir name) "meta.json"

/-- The directory of a context's TLS files. -/
def tlsDir (s : ContextStore) (name : String) : String :=
  Path.join
    (Path.join (Path.join (Path.join s.configDir "contexts") "tls") (Context.dirName name)) "docker"

/-- The file whose presence says that a context has TLS files. -/
def tlsProbe (s : ContextStore) (name : String) : String :=
  Path.join (s.tlsDir name) "ca.pem"

/-- The fault of a description for the context of a name, or its endpoint. -/
def endpointOf (m : ContextMeta) (name : String) : Except ConfigFault EndpointMeta :=
  if m.name ≠ name then .error (.otherContext m.name name)
  else
    match m.endpoints.get? "docker" with
    | none => .error .noDockerEndpoint
    | some endpoint => if endpoint.host = "" then .error .emptyHost else .ok endpoint

/-- Reads a context. -/
def inspect (s : ContextStore) (files : Files) (name : String) : Except Error DockerContext :=
  if name = Context.defaultName then .ok ⟨name, Context.defaultHost, false, none⟩
  else
    match files.read (s.metaFile name) with
    | .error .absent => .error (.contextNotFound name (s.metaDir name))
    | .error .failed => .error (.io (s.metaFile name))
    | .ok bytes =>
        match ContextMeta.ofJson? bytes with
        | none => .error (.configInvalid (s.metaFile name) (.unreadable .context bytes))
        | some m =>
            match endpointOf m name with
            | .error fault => .error (.configInvalid (s.metaFile name) fault)
            | .ok endpoint =>
                .ok ⟨m.name, endpoint.host, endpoint.skipTlsVerify,
                  if files.present (s.tlsProbe name) then some (s.tlsDir name) else none⟩

/-- The context that the configuration file selects; none without a file. -/
def current (s : ContextStore) (files : Files) : Except Error (Option String) :=
  match ConfigFile.loadFile files (Path.join s.configDir Config.fileName) with
  | .ok config => .ok (if config.currentContext = "" then none else some config.currentContext)
  | .error (.notExist _) => .ok none
  | .error e => .error e

end ContextStore

end DockerClient
