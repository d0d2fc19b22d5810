import DockerClient.Error.Basic
import DockerClient.Text.Blank
import DockerClient.Text.Cut
import DockerClient.Text.Utf8

/-
**Authentication entries** of a configuration.

* `Auth.decode` — the user and the password of an encoded pair;
* `Auth.encode` — the encoded form of a pair;
* `AuthEntry` — an entry, `AuthEntry.credentials` — the pair it holds;
* `AuthEntry.predecoded` — the entry with an encoded pair spread to its own fields.
-/

set_option relaxedAutoImplicit false
set_option autoImplicit false

namespace DockerClient

/-! ### Encoded pairs -/

namespace Auth

/-- The encoded form of a pair: base64 of the user, a colon and the password. -/
def encode (user password : String) : List UInt8 :=
  Base64.encode (Text.encode (user ++ ":" ++ password))

/-- The user and the password of an encoded pair; the first colon separates them. -/
def decode (auth : String) : Except Error (String × String) :=
  match Base64.decode (Text.encode (Text.trim auth)) with
  | .error fault => .error (.invalidArgument (.authEncoding fault))
  | .ok bytes =>
      match Text.decode? bytes with
      | none => .error (.invalidArgument .authText)
      | some text =>
          match Text.splitFirst text ':' with
          | some pair => .ok pair
          | none => .error (.invalidArgument .authSeparator)

end Auth

/-! ### Entries -/

/-- One entry of the registries that a configuration holds credentials for. -/
structure AuthEntry where
  username : String := ""
  password : String := ""
  auth : String := ""
  email : String := ""
  identityToken : String := ""
  registryToken : String := ""
  serverAddress : String := ""
deriving DecidableEq, Repr

namespace AuthEntry

/-- The user and the secret that an entry holds.  An identity token comes first and has no user;
an entry that holds nothing gives an empty pair. -/
def credentials (entry : AuthEntry) : Except Error (String × String) :=
  if entry.identityToken ≠ "" then .ok ("", entry.identityToken)
  else if entry.username ≠ "" ∧ entry.password ≠ "" then .ok (entry.username, entry.password)
  else if entry.auth ≠ "" then Auth.decode entry.auth
  else .ok ("", "")

/-- The entry with its encoded pair spread to user and password, where both are empty and the pair
can be decoded. -/
def predecoded (entry : AuthEntry) : AuthEntry :=
  if entry.username = "" ∧ entry.password = "" ∧ entry.auth ≠ "" then
    match Auth.decode entry.auth with
    | .ok (user, password) => { entry with username := user, password := password }
    | .error _ => entry
  else entry

end AuthEntry

end DockerClient
