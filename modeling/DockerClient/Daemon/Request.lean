import DockerClient.Http.Headers
import DockerClient.Http.Target
import DockerClient.Json.Value

/-
**Requests to the daemon.**

* `Method`, `Request`, `Request.line` — what is asked;
* `SentRequest`, `Request.send` — what the daemon gets.
-/

set_option relaxedAutoImplicit false
set_option autoImplicit false

namespace DockerClient

/-- What is done with a path. -/
inductive Method where
  | get
  | post
  | delete
deriving DecidableEq, Repr

/-- The name of a method. -/
def Method.name : Method → String
  | .get => "GET"
  | .post => "POST"
  | .delete => "DELETE"

/-- What the daemon is asked: a written target, whose query a given one replaces. -/
structure Request where
  method : Method
  target : String
  query : Option (List (String × String)) := none
  body : Option Json.Value := none
deriving Repr

/-- The method and the target of a request. -/
def Request.line (r : Request) : String := r.method.name ++ " " ++ r.target

/-- The text of a truth value in a query. -/
def Request.flagText (b : Bool) : String := if b then "true" else "false"

/-- A request as the daemon gets it: the path is encoded, the query is not; its headers can be seen
on a transport of the library. -/
structure SentRequest where
  method : Method
  path : String
  query : List (String × String)
  body : Option Json.Value
  headers : Option RequestHeaders

/-- The request as it is sent with some headers, to a host whose paths may have backslashes between
their parts. -/
def Request.send (r : Request) (backslashes : Bool) (headers : Option RequestHeaders) :
    SentRequest :=
  let target := Target.ofText backslashes r.target
  ⟨r.method, target.path, r.query.getD target.query, r.body, headers⟩

end DockerClient
