import DockerClient.Error.Basic
import DockerClient.Json.Record

/-
**Responses of the daemon.**

* `Response`, `Response.isSuccess` — a status and a body;
* `Refusal.read` — **the message in the body of a refusal**;
* `Response.content` — the body of a success, or the fault that a response means.

The message is read from the front: what makes the body something else than a message decides at the
place where it stands, and only a body that ends before that place is one that can not be read.
-/

set_option relaxedAutoImplicit false
set_option autoImplicit false

namespace DockerClient

/-- A status and a body. -/
structure Response where
  status : Nat
  body : List UInt8
deriving DecidableEq, Repr

/-- Whether the daemon did what it was asked, or had nothing to do. -/
def Response.isSuccess (r : Response) : Bool :=
  (decide (200 ≤ r.status) && decide (r.status ≤ 299)) || r.status == 304

/-! ### Refusals -/

namespace Refusal

/-- What the body of a refusal holds: a message, something else, or less than it should. -/
inductive Content where
  | message (text : String)
  | other
  | truncated
deriving DecidableEq, Repr

/-- The content of a body whose reading stopped. -/
def ofStop : Json.Stop → Content
  | .truncated => .truncated
  | .malformed => .other

/-- A message, if nothing but white space follows it. -/
def closed (text : String) (rest : List UInt8) : Content :=
  if Json.skipBlank rest = [] then .message text else .other

/-- A string where a message is expected: the string and what follows it, or what the body is. -/
def message (s : List UInt8) : Except Content (String × List UInt8) :=
  match Json.skipBlank s with
  | [] => .error .truncated
  | b :: rest =>
      if b = 0x22 then
        match Json.stringBody rest with
        | .error stop => .error (ofStop stop)
        | .ok (body, rest) =>
            match Json.textOf? body with
            | some text => .ok (text, rest)
            | none => .error .other
      else if b = 0x5B ∨ b = 0x7B then .error .other
      else
        match Json.value (Json.enough s) s with
        | .error stop => .error (ofStop stop)
        | .ok _ => .error .other

/-- The end of an array after its only element. -/
def afterElement (text : String) (s : List UInt8) : Content :=
  match Json.skipBlank s with
  | [] => .truncated
  | b :: rest => if b = 0x5D then closed text rest else .other

/-- The members of an object, given the message if it was among those before. -/
def members : Nat → Option String → List UInt8 → Content
  | 0, _, _ => .other
  | fuel + 1, found, s =>
      match Json.skipBlank s with
      | [] => .truncated
      | quote :: rest =>
          if quote ≠ 0x22 then .other
          else
            match Json.stringBody rest with
            | .error stop => ofStop stop
            | .ok (key, rest) =>
                match Json.textOf? key with
                | none => .other
                | some key =>
                    match Json.skipBlank rest with
                    | [] => .truncated
                    | colon :: rest =>
                        if colon ≠ 0x3A then .other
                        else if key = "message" then
                          if found.isSome then .other
                          else
                            match message rest with
                            | .error content => content
                            | .ok (text, rest) => next fuel (some text) rest
                        else
                          match Json.value (Json.enough rest) rest with
                          | .error stop => ofStop stop
                          | .ok (_, rest) => next fuel found rest
where
  /-- What follows a member. -/
  next (fuel : Nat) (found : Option String) (s : List UInt8) : Content :=
    match Json.skipBlank s with
    | [] => .truncated
    | b :: rest =>
        if b = 0x2C then members fuel found rest
        else if b = 0x7D then
          match found with
          | some text => closed text rest
          | none => .other
        else .other

/-- What a body that is not empty holds: an object with a message, or an array of one. -/
def content (s : List UInt8) : Content :=
  match Json.skipBlank s with
  | [] => .truncated
  | b :: rest =>
      if b = 0x7B then
        match Json.skipBlank rest with
        | [] => .truncated
        | c :: _ => if c = 0x7D then .other else members (rest.length + 1) none rest
      else if b = 0x5B then
        match message rest with
        | .error content => content
        | .ok (text, rest) => afterElement text rest
      else
        match Json.value (Json.enough s) s with
        | .error stop => ofStop stop
        | .ok _ => .other

/-- **The message in the body of a refusal**: the one it is written to hold, or all of it; none if
it ends too early or is no text. -/
def read (body : List UInt8) : Option String :=
  match Text.decode? body with
  | none => none
  | some text =>
      if body.isEmpty then some ""
      else
        match content body with
        | .message m => some m
        | .other => some text
        | .truncated => none

end Refusal

/-- The body of a success, or the fault that a response means. -/
def Response.content (r : Response) : Except DaemonFault (List UInt8) :=
  if r.isSuccess then .ok r.body
  else
    match Refusal.read r.body with
    | some message => .error (.response r.status message)
    | none => .error (.undecodable "" r.body)

end DockerClient
