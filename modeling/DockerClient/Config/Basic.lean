import DockerClient.Config.Auth
import DockerClient.Config.Keys
import DockerClient.Json.Value

/-
**Configurations** of the command line tool, as its `config.json` holds them.

* `ConfigFile` — all sections, and the members that have none;
* `ConfigFile.normalized` — entries with their pairs decoded, under normalized hosts;
* `ConfigFile.authFor?`, `ConfigFile.helperFor?` — what is configured for a host.
-/

set_option relaxedAutoImplicit false
set_option autoImplicit false

namespace DockerClient

/-- The proxies of one daemon. -/
structure ProxyConfig where
  httpProxy : String := ""
  httpsProxy : String := ""
  noProxy : String := ""
  ftpProxy : String := ""
  allProxy : String := ""
deriving DecidableEq, Repr

/-- A configuration. -/
structure ConfigFile where
  auths : Table AuthEntry := Table.empty
  credentialsStore : String := ""
  credentialHelpers : Table String := Table.empty
  proxies : Table ProxyConfig := Table.empty
  currentContext : String := ""
  httpHeaders : Table String := Table.empty
  psFormat : String := ""
  imagesFormat : String := ""
  networksFormat : String := ""
  volumesFormat : String := ""
  statsFormat : String := ""
  detachKeys : String := ""
  experimental : String := ""
  cliPluginsExtraDirs : List String := []
  aliases : Table String := Table.empty
  other : Table Json.Value := Table.empty

namespace ConfigFile

/-- The configuration with encoded pairs decoded and both kinds of credentials under normalized
hosts. -/
def normalized (c : ConfigFile) : ConfigFile :=
  { c with
    auths := Config.byHost (c.auths.mapValues AuthEntry.predecoded).entries
    credentialHelpers := Config.byHost c.credentialHelpers.entries }

/-- The entry for a host, however the host is written. -/
def authFor? (c : ConfigFile) (host : String) : Option AuthEntry :=
  c.auths.get? (Registry.authKey host)

/-- The credential helper for a host, however the host is written. -/
def helperFor? (c : ConfigFile) (host : String) : Option String :=
  c.credentialHelpers.get? (Registry.authKey host)

end ConfigFile

end DockerClient
