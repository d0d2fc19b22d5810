import DockerClient.Config.Basic

/-
**Writing configurations** as JSON.  Empty fields are left out.

* `AuthEntry.toValue`, `ProxyConfig.toValue`, `ConfigFile.toValue` — the records as values;
* `ConfigFile.toJson` — a configuration as bytes.
-/

set_option relaxedAutoImplicit false
set_option autoImplicit false

namespace DockerClient

open Json (Value)

/-- The member of a text, none if it is empty. -/
def textMember (name s : String) : List (String × Value) :=
  if s = "" then [] else [(name, .string s)]

/-- The member of a table, none if it is empty. -/
def tableMember {α : Type} (name : String) (f : α → Value) (t : Table α) :
    List (String × Value) :=
  if t.isEmpty then [] else [(name, Value.ofTable f t)]

/-- The member of a list of texts, none if it is empty. -/
def listMember (name : String) (texts : List String) : List (String × Value) :=
  if texts.isEmpty then [] else [(name, .array (texts.map .string))]

/-- An entry as a value. -/
def AuthEntry.toValue (e : AuthEntry) : Value :=
  .object (textMember "username" e.username ++ textMember "password" e.password
    ++ textMember "auth" e.auth ++ textMember "email" e.email
    ++ textMember "identitytoken" e.identityToken
    ++ textMember "registrytoken" e.registryToken
    ++ textMember "serveraddress" e.serverAddress)

/-- The proxies of a daemon as a value. -/
def ProxyConfig.toValue (p : ProxyConfig) : Value :=
  .object (textMember "httpProxy" p.httpProxy ++ textMember "httpsProxy" p.httpsProxy
    ++ textMember "noProxy" p.noProxy ++ textMember "ftpProxy" p.ftpProxy
    ++ textMember "allProxy" p.allProxy)

/-- A configuration as a value. -/
def ConfigFile.toValue (c : ConfigFile) : Value :=
  .object (tableMember "auths" AuthEntry.toValue c.auths
    ++ textMember "credsStore" c.credentialsStore
    ++ tableMember "credHelpers" .string c.credentialHelpers
    ++ tableMember "proxies" ProxyConfig.toValue c.proxies
    ++ textMember "currentContext" c.currentContext
    ++ tableMember "HttpHeaders" .string c.httpHeaders
    ++ textMember "psFormat" c.psFormat ++ textMember "imagesFormat" c.imagesFormat
    ++ textMember "networksFormat" c.networksFormat
    ++ textMember "volumesFormat" c.volumesFormat ++ textMember "statsFormat" c.statsFormat
    ++ textMember "detachKeys" c.detachKeys ++ textMember "experimental" c.experimental
    ++ listMember "cliPluginsExtraDirs" c.cliPluginsExtraDirs
    ++ tableMember "aliases" .string c.aliases
    ++ c.other.entries)

/-- A configuration as bytes. -/
def ConfigFile.toJson (c : ConfigFile) : List UInt8 := c.toValue.write

end DockerClient
