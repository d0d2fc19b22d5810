import DockerClient.Config.Reader
import DockerClient.World.Basic
import DockerClient.World.Path

/-
**Where configurations are found.**

* `Config.directory` — the configuration directory;
* `ConfigFile.loadFile` — reads a file;
* `ConfigFile.load` — reads the configuration of the surroundings: the text of
  `DOCKER_AUTH_CONFIG` if it is set, the file otherwise.
-/

set_option relaxedAutoImplicit false
set_option autoImplicit false

namespace DockerClient

/-- The name of the configuration file. -/
def Config.fileName : String := "config.json"

/-- The configuration directory: that of the environment, or the one in the home directory. -/
def Config.directory (w : World) : Except Error String :=
  match w.env.var? Environment.dockerConfig with
  | some dir => .ok dir
  | none =>
      match w.home with
      | some home => .ok (Path.join home ".docker")
      | none => .error (.configInvalid "home directory" .noHome)

/-- Reads a configuration file. -/
def ConfigFile.loadFile (files : Files) (path : String) : Except Error ConfigFile :=
  match files.read path with
  | .ok bytes => ConfigFile.ofJson path bytes
  | .error .absent => .error (.notExist path)
  | .error .failed => .error (.io path)

/-- Reads the configuration of the surroundings. -/
def ConfigFile.load (w : World) : Except Error ConfigFile :=
  match w.env.var? Environment.dockerAuthConfig with
  | some text => ConfigFile.ofJson Environment.dockerAuthConfig (Text.encode text)
  | none =>
      match Config.directory w with
      | .error e => .error e
      | .ok dir => ConfigFile.loadFile w.files (Path.join dir Config.fileName)

end DockerClient
