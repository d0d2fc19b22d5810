import DockerClient.Credentials.Basic
import DockerClient.Error.Basic
import DockerClient.Image.Registry
import DockerClient.Json.Record
import DockerClient.Text.Blank

/-
**Credential helpers**: programs that are asked for the credentials of a server.

* `HelperCall`, `HelperOutput`, `HelperRunner` — what a helper is asked, what it leaves, and how
  helpers are run;
* `Helper.call` — the question for a host;
* `Helper.interpret` — **the meaning of an output**: credentials, nothing, or an error.
-/

set_option relaxedAutoImplicit false
set_option autoImplicit false

namespace DockerClient

/-- A question to a helper program. -/
structure HelperCall where
  program : String
  verb : String
  stdin : String
deriving DecidableEq, Repr

/-- What a helper program left; it has no exit code if a signal ended it. -/
structure HelperOutput where
  stdout : List UInt8
  stderr : List UInt8
  exitCode : Option Int
deriving DecidableEq, Repr

/-- How helpers are run: any outcome for every call, given the calls before it. -/
abbrev HelperRunner := List HelperCall → HelperCall → Except Error HelperOutput

namespace Helper

/-- The program of a named helper. -/
def program (store : String) : String := "docker-credential-" ++ store

/-- The user that marks a secret as an identity token. -/
def tokenUser : String := "<token>"

/-- What a helper says that has nothing for a server. -/
def notFoundText : String := "credentials not found"

/-- What a helper says that was not told a server. -/
def noServerText : String := "no server URL"

/-- The helper of the platform. -/
def platform : String := "secretservice"

/-- The question to a named helper for a host. -/
def call (store host : String) : HelperCall :=
  ⟨program store, "get", Registry.serverUrl host⟩

/-- The user and secret of a written answer. -/
def answerOfRaw? (raw : Json.Raw) : Option Credentials :=
  match Json.Record.fields? ["Username", "Secret"] raw with
  | some [username, secret] => do
      let username ← Json.defaulted Json.Raw.string? "" username
      let secret ← Json.defaulted Json.Raw.string? "" secret
      some ⟨username, secret⟩
  | _ => none

/-- The user and secret that a helper prints. -/
def answer? (stdout : List UInt8) : Option Credentials :=
  match Json.Raw.read stdout with
  | .ok raw => answerOfRaw? raw
  | .error _ => none

/-- The credentials of an answer; the mark of a token is no user. -/
def credentialsOf (answer : Credentials) : Credentials :=
  if answer.username = tokenUser then ⟨"", answer.secret⟩ else answer

/-- The text of an output stream. -/
def textOf (stream : List UInt8) : String := Text.trim (Text.decodeLossy stream)

/-- **The meaning of an output.** -/
def interpret (helper : String) (out : HelperOutput) : Except Error Credentials :=
  if out.exitCode = some 0 then
    match answer? out.stdout with
    | none => .error (.helperUndecodable helper)
    | some answer => .ok (credentialsOf answer)
  else if textOf out.stdout = notFoundText then .ok {}
  else if textOf out.stdout = noServerText then .error (.missingServerUrl helper)
  else .error (.helperFailed helper (textOf out.stdout) (textOf out.stderr) out.exitCode)

end Helper

end DockerClient
