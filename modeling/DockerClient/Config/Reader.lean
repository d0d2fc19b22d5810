import DockerClient.Config.Basic
import DockerClient.Json.Record

/-
**Reading configurations** from JSON.

* `AuthEntry.ofRaw?`, `ProxyConfig.ofRaw?`, `ConfigFile.ofRaw?` — the records of a written value;
* `AuthEntry.ofJson?` — an entry from bytes;
* `ConfigFile.ofJson` — a normalized configuration from bytes; its origin is named in errors.
-/

set_option relaxedAutoImplicit false
set_option autoImplicit false

namespace DockerClient

open Json (Raw)

/-- The texts of a record whose fields are all texts that may be missing. -/
def textFields? (names : List String) (raw : Raw) : Option (List String) :=
  match Json.Record.fields? names raw with
  | none => none
  | some fields => Json.allOf (Json.defaulted Raw.string? "") fields

/-- The fields of an entry, in their order. -/
def AuthEntry.fieldNames : List String :=
  ["username", "password", "auth", "email", "identitytoken", "registrytoken", "serveraddress"]

/-- The entry of a written record. -/
def AuthEntry.ofRaw? (raw : Raw) : Option AuthEntry :=
  match textFields? AuthEntry.fieldNames raw with
  | some [username, password, auth, email, identityToken, registryToken, serverAddress] =>
      some ⟨username, password, auth, email, identityToken, registryToken, serverAddress⟩
  | _ => none

/-- An entry from bytes. -/
def AuthEntry.ofJson? (bytes : List UInt8) : Option AuthEntry :=
  match Raw.read bytes with
  | .ok raw => AuthEntry.ofRaw? raw
  | .error _ => none

/-- The fields of the proxies of a daemon, in their order. -/
def ProxyConfig.fieldNames : List String :=
  ["httpProxy", "httpsProxy", "noProxy", "ftpProxy", "allProxy"]

/-- The proxies of a written record. -/
def ProxyConfig.ofRaw? (raw : Raw) : Option ProxyConfig :=
  match textFields? ProxyConfig.fieldNames raw with
  | some [httpProxy, httpsProxy, noProxy, ftpProxy, allProxy] =>
      some ⟨httpProxy, httpsProxy, noProxy, ftpProxy, allProxy⟩
  | _ => none

namespace ConfigFile

/-- The sections of a configuration. -/
def fieldNames : List String :=
  ["auths", "credsStore", "credHelpers", "proxies", "currentContext", "HttpHeaders", "psFormat",
   "imagesFormat", "networksFormat", "volumesFormat", "statsFormat", "detachKeys", "experimental",
   "cliPluginsExtraDirs", "aliases"]

/-- The value of a member without a section; the configuration around it is a level of its own. -/
def otherMember? (m : String × Raw) : Option (String × Json.Value) :=
  (Json.Value.ofRaw? (Json.Value.maxLevels - 1) m.2).map fun v => (m.1, v)

/-- The configuration of a written value, which has to be an object. -/
def ofRaw? (raw : Raw) : Option ConfigFile :=
  let text := Json.defaulted Raw.string? ""
  let texts := Json.defaulted (Raw.table? Raw.string?) Table.empty
  match Json.Record.object? fieldNames raw with
  | some ([auths, store, helpers, proxies, current, headers, ps, images, networks, volumes, stats,
      detach, experimental, plugins, aliases], rest) => do
      let auths ← Json.defaulted (Raw.table? AuthEntry.ofRaw?) Table.empty auths
      let store ← text store
      let helpers ← texts helpers
      let proxies ← Json.defaulted (Raw.table? ProxyConfig.ofRaw?) Table.empty proxies
      let current ← text current
      let headers ← texts headers
      let ps ← text ps
      let images ← text images
      let networks ← text networks
      let volumes ← text volumes
      let stats ← text stats
      let detach ← text detach
      let experimental ← text experimental
      let plugins ← Json.defaulted (Raw.list? Raw.string?) [] plugins
      let aliases ← texts aliases
      let other ← Json.allOf otherMember? rest
      some ⟨auths, store, helpers, proxies, current, headers, ps, images, networks, volumes, stats,
        detach, experimental, plugins, aliases, Table.ofList other⟩
  | _ => none

/-- A normalized configuration from bytes. -/
def ofJson (origin : String) (bytes : List UInt8) : Except Error ConfigFile :=
  match Raw.read bytes with
  | .error _ => .error (.configInvalid origin (.unreadable .configuration bytes))
  | .ok raw =>
      match ofRaw? raw with
      | none => .error (.configInvalid origin (.unreadable .configuration bytes))
      | some c => .ok c.normalized

end ConfigFile

end DockerClient
