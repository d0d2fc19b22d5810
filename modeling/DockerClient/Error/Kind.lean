import DockerClient.Error.Fault

/-
**Kinds of errors**, independent of where an error came from.

* `ErrorKind`, `ErrorKind.all` — the kinds;
* `ErrorKind.ofStatus` — the kind of a daemon response, by its HTTP status;
* `DaemonFault.kind` — the kind of a failed request;
* `ErrorKind.isPermanent` — the kinds that trying again can not fix.
-/

set_option relaxedAutoImplicit false
set_option autoImplicit false

namespace DockerClient

/-- The classification of an error. -/
inductive ErrorKind where
  | notFound
  | invalidArgument
  | unauthenticated
  | permissionDenied
  | notImplemented
  | internal
  | conflict
  | unavailable
  | cancelled
  | deadlineExceeded
  | helperNotFound
  | helperExecutionFailed
  | helperDecodeFailed
  | missingServerUrl
  | contextNotFound
  | configInvalid
  | notExist
  | closed
  | unknown
deriving DecidableEq, Repr

/-- Every kind. -/
def ErrorKind.all : List ErrorKind :=
  [.notFound, .invalidArgument, .unauthenticated, .permissionDenied, .notImplemented, .internal,
   .conflict, .unavailable, .cancelled, .deadlineExceeded, .helperNotFound,
   .helperExecutionFailed, .helperDecodeFailed, .missingServerUrl, .contextNotFound,
   .configInvalid, .notExist, .closed, .unknown]

/-- The kind of a daemon response with a status. -/
def ErrorKind.ofStatus : Nat → ErrorKind
  | 400 => .invalidArgument
  | 401 => .unauthenticated
  | 403 => .permissionDenied
  | 404 => .notFound
  | 409 => .conflict
  | 500 => .internal
  | 501 => .notImplemented
  | 503 => .unavailable
  | _ => .unknown

/-- The kind of a failed request. -/
def DaemonFault.kind : DaemonFault → ErrorKind
  | .response status _ => .ofStatus status
  | .timeout => .deadlineExceeded
  | .socketMissing _ | .interrupted _ | .unreachable _ => .unavailable
  | .addressInvalid _ | .disconnected _ | .undecodable _ _ => .unknown

/-- Trying again can not fix an error of this kind. -/
def ErrorKind.isPermanent : ErrorKind → Bool
  | .notFound | .invalidArgument | .unauthenticated | .permissionDenied | .notImplemented
  | .internal => true
  | _ => false

end DockerClient
