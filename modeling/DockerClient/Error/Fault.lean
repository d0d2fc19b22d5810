import DockerClient.Encoding.Base64
import DockerClient.Text.Quoted

/-
**What can be wrong** with the texts and files that callers hand over.

* `ArgumentFault` — an argument that can not be used, with `ArgumentFault.message`;
* `ConfigFault` — a configuration that can not be used;
* `DaemonFault` — why a request to the daemon gave no answer;
* `Wording` — the words of the JSON reader and of the transport, which are not the library's own;
* `ConfigFault.text`, `DaemonFault.text` — faults in words.
-/

set_option relaxedAutoImplicit false
set_option autoImplicit false

namespace DockerClient

/-! ### Arguments -/

/-- Why an argument can not be used. -/
inductive ArgumentFault where
  | described (text : String)
  | digestForm (digest : String)
  | digestAlgorithm (algorithm : String)
  | digestLength (algorithm : String) (expected actual : Nat)
  | digestCharacters (digest : String)
  | emptyReference
  | schemeWithoutRepository (reference : String)
  | invalidRepository (reference : String)
  | emptyTag (reference : String)
  | authEncoding (fault : Base64.Fault)
  | authText
  | authSeparator
  | headerName (name : String)
  | headerValue (name : String)
  | hostWithoutScheme (host : String)
  | hostScheme (host : String)
  | hostUnknown (host : String)
  | missingHealthCheck
  | emptyNetworkName
deriving DecidableEq, Repr

/-- The wording of an argument fault. -/
def ArgumentFault.message : ArgumentFault → String
  | .described text => text
  | .digestForm digest => "digest \"" ++ digest ++ "\" is not of the form algo:hex"
  | .digestAlgorithm algorithm => "digest algorithm \"" ++ algorithm ++ "\" is not supported"
  | .digestLength algorithm expected actual =>
      algorithm ++ " digest must have " ++ toString expected ++ " hex characters, got "
        ++ toString actual
  | .digestCharacters digest => "digest \"" ++ digest ++ "\" contains non hex characters"
  | .emptyReference => "image reference is empty"
  | .schemeWithoutRepository reference =>
      "image reference \"" ++ reference ++ "\" has a scheme but no repository"
  | .invalidRepository reference =>
      "image reference \"" ++ reference ++ "\" has an invalid repository"
  | .emptyTag reference => "image reference \"" ++ reference ++ "\" has an empty tag"
  | .authEncoding fault => "auth is not valid base64: " ++ fault.message
  | .authText => "decoded auth is not valid UTF-8"
  | .authSeparator => "decoded auth is not of the form user:password"
  | .headerName name => "invalid header name \"" ++ name ++ "\": invalid HTTP header name"
  | .headerValue name => "invalid value for header " ++ name ++ ": failed to parse header value"
  | .hostWithoutScheme host => "docker host \"" ++ host ++ "\" has no scheme"
  | .hostScheme host => "docker host \"" ++ host ++ "\" has an unsupported scheme"
  | .hostUnknown host => "can not determine the daemon host of \"" ++ host ++ "\""
  | .missingHealthCheck => "health check must not be None"
  | .emptyNetworkName => "network name must not be empty"

/-! ### Configuration -/

/-- What a JSON file is read as. -/
inductive ConfigForm where
  | configuration
  | context
deriving DecidableEq, Repr

/-- Why a configuration can not be used.  `unreadable` stands for content that does not have the
form it should have; the JSON reader says what is wrong with it. -/
inductive ConfigFault where
  | described (text : String)
  | unreadable (form : ConfigForm := .configuration) (content : List UInt8 := [])
  | noCertPath (host : String)
  | otherContext (actual expected : String)
  | noDockerEndpoint
  | emptyHost
  | noHome
  | noCaCertificate
  | noPrivateKey
  | noTlsMaterial
deriving DecidableEq, Repr

/-! ### The daemon -/

/-- Why a request to the daemon gave no answer that can be used. -/
inductive DaemonFault where
  /-- The daemon refused, with a status and a message. -/
  | response (status : Nat) (message : String)
  /-- No answer came in time. -/
  | timeout
  /-- There is no socket at the path. -/
  | socketMissing (path : String)
  /-- Reading or writing failed, for a reason of the system. -/
  | interrupted (reason : String := "")
  /-- The address does not say where the daemon is. -/
  | addressInvalid (address : String := "")
  /-- No connection could be made to the address. -/
  | unreachable (address : String := "")
  /-- The connection ended before the answer did. -/
  | disconnected (reason : String := "")
  /-- The answer to what was asked does not have the form it should have. -/
  | undecodable (asked : String := "") (body : List UInt8 := [])
deriving DecidableEq, Repr

/-- Whether the words of a fault do not depend on the transport. -/
def DaemonFault.isWorded : DaemonFault → Bool
  | .response _ _ | .timeout | .socketMissing _ => true
  | .interrupted _ | .addressInvalid _ | .unreachable _ | .disconnected _ | .undecodable _ _ => false

/-! ### Words -/

/-- The words of what the library is built on: of its JSON reader, about content that does not have
a form, and of the transport, about the faults that only it can describe. -/
structure Wording where
  unreadable : ConfigForm → List UInt8 → String
  transport : DaemonFault → String

/-- The same words about everything. -/
def Wording.plain : Wording := ⟨fun _ _ => "<detail>", fun _ => "transport error"⟩

/-- A configuration fault in words. -/
def ConfigFault.text (w : Wording) : ConfigFault → String
  | .described text => text
  | .unreadable form content => w.unreadable form content
  | .noCertPath host =>
      "TLS verification is enabled for " ++ host ++ " but no cert path is set"
  | .otherContext actual expected =>
      "context is named \"" ++ actual ++ "\", expected \"" ++ expected ++ "\""
  | .noDockerEndpoint => "context has no docker endpoint"
  | .emptyHost => "context docker endpoint has an empty host"
  | .noHome => "could not determine the home directory of the current user"
  | .noCaCertificate => "no CA certificate found"
  | .noPrivateKey => "no private key found"
  | .noTlsMaterial => "an https endpoint needs TLS material from a cert path"

/-- A daemon fault in words. -/
def DaemonFault.text (w : Wording) : DaemonFault → String
  | .response status message =>
      "Docker responded with status code " ++ toString status ++ ": " ++ message
  | .timeout => "Timeout error"
  | .socketMissing path => "Socket not found: " ++ path
  | fault => w.transport fault

end DockerClient
