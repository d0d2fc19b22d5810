import DockerClient.Error.Kind

/-
**Errors** of every call of the library.

An error is a leaf, or a layer around other errors: `Error.context` adds a message, `Error.init`
marks the failed set-up of the shared client, and `Error.multiple` collects several.

* `Error.text` — **the display text**, given the words of what the library is built on;
* `Error.isWorded`, `Error.message` — the display text, unless the transport words part of it;
* `Error.kind`, `Error.hasKind`, `Error.isNotFound`, `Error.isConflict` — classification;
* `Error.daemonMessage` — what the daemon said;
* `Error.source`, `Error.sources` — the causes of an error, from the outside in.
-/

set_option relaxedAutoImplicit false
set_option autoImplicit false

namespace DockerClient

/-- The errors of the library. -/
inductive Error where
  | invalidArgument (fault : ArgumentFault)
  | notFound (what : String)
  | notExist (path : String)
  | configInvalid (origin : String) (fault : ConfigFault)
  | contextNotFound (name path : String)
  | helperNotFound (helper : String)
  | helperFailed (helper stdout stderr : String) (code : Option Int)
  | helperUndecodable (helper : String)
  | missingServerUrl (helper : String)
  | spawn (program : String)
  | io (path : String)
  | closed
  | cancelled (message : String)
  | timeout (message : String)
  | daemon (fault : DaemonFault)
  | init (cause : Error)
  | context (text : String) (cause : Error)
  | multiple (errors : List Error)
deriving Repr

instance : Inhabited Error := ⟨.closed⟩

namespace Error

/-! ### Wording -/

/-- The exit code of a process, or that it has none. -/
def exitText : Option Int → String
  | some code => "Some(" ++ toString code ++ ")"
  | none => "None"

mutual

/-- **The display text of an error**: a layer of the set-up says so before its cause, a context layer
stands for its cause, and members of a collection are joined. -/
def text (w : Wording) : Error → String
  | .invalidArgument fault => "invalid argument: " ++ fault.message
  | .notFound what => "not found: " ++ what
  | .notExist path => "config file " ++ path ++ " does not exist"
  | .configInvalid origin fault => "invalid config in " ++ origin ++ ": " ++ fault.text w
  | .contextNotFound name path => "docker context \"" ++ name ++ "\" not found at " ++ path
  | .helperNotFound helper => "credential helper `" ++ helper ++ "` not found in PATH"
  | .helperFailed helper stdout stderr code =>
      "credential helper `" ++ helper ++ "` failed with exit code " ++ exitText code
        ++ ", stdout: \"" ++ stdout ++ "\", stderr: \"" ++ stderr ++ "\""
  | .helperUndecodable helper =>
      "credential helper `" ++ helper ++ "` returned output that is not valid JSON"
  | .missingServerUrl helper => "credential helper `" ++ helper ++ "` reported no server URL"
  | .spawn program => "failed to spawn `" ++ program ++ "`"
  | .io path => "io error on " ++ path
  | .closed => "docker client is closed"
  | .cancelled text => "cancelled: " ++ text
  | .timeout text => "timed out: " ++ text
  | .daemon fault => fault.text w
  | .init cause => "docker client initialization failed: " ++ cause.text w
  | .context text _ => text
  | .multiple errors => "; ".intercalate (texts w errors)

/-- The display texts of errors. -/
def texts (w : Wording) : List Error → List String
  | [] => []
  | e :: rest => e.text w :: texts w rest

end

mutual

/-- Whether no part of the display text is up to the transport. -/
def isWorded : Error → Bool
  | .daemon fault => fault.isWorded
  | .init cause => cause.isWorded
  | .multiple errors => allWorded errors
  | _ => true

/-- Whether no part of the display texts is up to the transport. -/
def allWorded : List Error → Bool
  | [] => true
  | e :: rest => e.isWorded && allWorded rest

end

/-- The display text, unless part of it is up to the transport; one word stands for what the JSON
reader says. -/
def message (e : Error) : Option String := if e.isWorded then some (e.text .plain) else none

/-! ### Classification -/

/-- The kind of the innermost classified error. -/
def kind : Error → ErrorKind
  | .invalidArgument _ => .invalidArgument
  | .notFound _ => .notFound
  | .notExist _ => .notExist
  | .configInvalid _ _ => .configInvalid
  | .contextNotFound _ _ => .contextNotFound
  | .helperNotFound _ => .helperNotFound
  | .helperFailed _ _ _ _ => .helperExecutionFailed
  | .helperUndecodable _ => .helperDecodeFailed
  | .missingServerUrl _ => .missingServerUrl
  | .spawn _ => .internal
  | .io _ => .internal
  | .closed => .closed
  | .cancelled _ => .cancelled
  | .timeout _ => .deadlineExceeded
  | .daemon fault => fault.kind
  | .init cause => cause.kind
  | .context _ cause => cause.kind
  | .multiple _ => .unknown

/-- What the daemon said, if the innermost error is its response. -/
def daemonMessage : Error → Option String
  | .daemon (.response _ message) => some message
  | .init cause => cause.daemonMessage
  | .context _ cause => cause.daemonMessage
  | _ => none

mutual

/-- Whether the error, or a member of a collection, is of a kind. -/
def hasKind (k : ErrorKind) : Error → Bool
  | .multiple errors => anyHasKind k errors
  | e => e.kind == k

/-- Whether some error of a list has a kind. -/
def anyHasKind (k : ErrorKind) : List Error → Bool
  | [] => false
  | e :: rest => e.hasKind k || anyHasKind k rest

end

/-- Whether something was not found. -/
def isNotFound (e : Error) : Bool := e.hasKind .notFound

/-- Whether something was in conflict. -/
def isConflict (e : Error) : Bool := e.hasKind .conflict

/-- Whether trying again can not fix the error. -/
def isPermanent (e : Error) : Bool := e.kind.isPermanent

/-! ### Layers -/

/-- The error with a message around it. -/
def addContext (text : String) (e : Error) : Error := .context text e

/-- What an error is caused by: another error of the library, or something below it. -/
inductive Cause where
  | error (e : Error)
  | io
  | json
deriving Repr

/-- The direct cause of an error.  The members of a collection are not causes of it. -/
def source : Error → Option Cause
  | .init cause => some (.error cause)
  | .context _ cause => some (.error cause)
  | .helperUndecodable _ => some .json
  | .spawn _ => some .io
  | .io _ => some .io
  | .daemon (.unreachable _) => some .io
  | _ => none

/-- All causes of an error, from the outside in. -/
def sources : Error → List Cause
  | .init cause => .error cause :: cause.sources
  | .context _ cause => .error cause :: cause.sources
  | e => e.source.toList

end Error

end DockerClient
