import DockerClient.Config.Load
import DockerClient.Credentials.Helper
import DockerClient.Image.Reference

/-
**Looking up credentials.**

Up to four sources are asked in order: the helper of the host, the helper of all hosts, the entry in
the configuration, and, unless a helper of all hosts is configured, the helper of the platform.  The
first that gives something, or fails, decides.

* `Inquiry` — a result with the helper calls that led to it, `Inquiry.orNext` — asking on;
* `Credentials.queryHelper` — asks one helper;
* `Credentials.lookup` — asks all sources;
* `Credentials.forHost`, `Credentials.askForImage`, `Credentials.forImage` — the same with the
  configuration of the surroundings, for a host and for an image.
-/

set_option relaxedAutoImplicit false
set_option autoImplicit false

namespace DockerClient

/-- A result with the helper calls that led to it. -/
structure Inquiry where
  calls : List HelperCall
  result : Except Error Credentials

namespace Inquiry

/-- Nothing was asked and nothing found. -/
def nothing : Inquiry := ⟨[], .ok {}⟩

/-- Asks the next source if this one gave nothing and did not fail.  It is told the calls so far. -/
def orNext (first : Inquiry) (next : List HelperCall → Inquiry) : Inquiry :=
  match first.result with
  | .error _ => first
  | .ok found =>
      if found.isEmpty then
        ⟨first.calls ++ (next first.calls).calls, (next first.calls).result⟩
      else first

@[simp] theorem nothing_orNext (next : List HelperCall → Inquiry) :
    nothing.orNext next = next [] := rfl

end Inquiry

namespace Credentials

/-- Asks a helper about a host, after other calls. -/
def queryHelper (run : HelperRunner) (before : List HelperCall) (store host : String) : Inquiry :=
  let call := Helper.call store host
  ⟨[call],
    match run before call with
    | .error e => .error e
    | .ok out => Helper.interpret (Helper.program store) out⟩

/-- Asks the helper that is configured for a host, if there is one. -/
def fromHostHelper (config : ConfigFile) (run : HelperRunner) (host : String) : Inquiry :=
  match config.helperFor? host with
  | some helper => queryHelper run [] helper host
  | none => .nothing

/-- Asks the helper that is configured for all hosts, if there is one. -/
def fromStore (config : ConfigFile) (run : HelperRunner) (before : List HelperCall)
    (host : String) : Inquiry :=
  if config.credentialsStore = "" then .nothing
  else queryHelper run before config.credentialsStore host

/-- Looks at the entry that is configured for a host, if there is one. -/
def fromEntry (config : ConfigFile) (host : String) : Inquiry :=
  match config.authFor? host with
  | some entry => ⟨[], entry.credentials.map fun pair => ⟨pair.1, pair.2⟩⟩
  | none => .nothing

/-- Asks the helper of the platform, unless there is one for all hosts.  That it is not installed is
no error. -/
def fromPlatform (config : ConfigFile) (run : HelperRunner) (before : List HelperCall)
    (host : String) : Inquiry :=
  if config.credentialsStore = "" then
    let asked := queryHelper run before Helper.platform host
    match asked.result with
    | .error (.helperNotFound _) => ⟨asked.calls, .ok {}⟩
    | _ => asked
  else .nothing

/-- The credentials for a host. -/
def lookup (config : ConfigFile) (run : HelperRunner) (host : String) : Inquiry :=
  let key := Registry.authKey host
  (((fromHostHelper config run key).orNext fun before => fromStore config run before key).orNext
    fun _ => fromEntry config key).orNext fun before => fromPlatform config run before key

/-- The configuration of the surroundings; an absent file is an empty configuration. -/
def userConfig (w : World) : Except Error ConfigFile :=
  match ConfigFile.load w with
  | .error (.notExist _) => .ok {}
  | outcome => outcome

/-- The credentials for a host with the configuration of the surroundings. -/
def forHost (w : World) (run : HelperRunner) (host : String) : Inquiry :=
  match userConfig w with
  | .error e => ⟨[], .error e⟩
  | .ok config => lookup config run host

/-- The registry host of an image and the credentials for it, as the daemon takes them, after the
helper calls that led to them. -/
def askForImage (w : World) (run : HelperRunner) (image : String) :
    List HelperCall × Except Error (String × DockerCredentials) :=
  match Reference.parse image with
  | .error e => ([], .error e)
  | .ok reference =>
      let host := reference.registryHost
      let asked := forHost w run host
      (asked.calls,
        match asked.result with
        | .error e => .error e
        | .ok found => .ok (host, found.toDocker (Registry.serverUrl host)))

/-- The registry host of an image and the credentials for it, as the daemon takes them. -/
def forImage (w : World) (run : HelperRunner) (image : String) :
    Except Error (String × DockerCredentials) :=
  (askForImage w run image).2

end Credentials

end DockerClient
