/-
**Why operations of the system fail.**

* `SystemFault` — the causes; `SystemFault.text` — what is said of them.
-/

set_option relaxedAutoImplicit false
set_option autoImplicit false

namespace DockerClient

/-- Why an operation of the system fails. -/
inductive SystemFault where
  | noEntry
  | notDirectory
  | isDirectory
  | denied
  | badFormat
  | tooManyLinks
  | nameTooLong
  | badDescriptor
  | alreadyThere
  | noSpace
  | noProcess
  | noDevice
  | invalid
deriving DecidableEq, Repr

/-- What is said of a fault. -/
def SystemFault.text : SystemFault → String
  | .noEntry => "No such file or directory"
  | .notDirectory => "Not a directory"
  | .isDirectory => "Is a directory"
  | .denied => "Permission denied"
  | .badFormat => "Exec format error"
  | .tooManyLinks => "Too many levels of symbolic links"
  | .nameTooLong => "File name too long"
  | .badDescriptor => "Bad file descriptor"
  | .alreadyThere => "File exists"
  | .noSpace => "No space left on device"
  | .noProcess => "No such process"
  | .noDevice => "No such device or address"
  | .invalid => "Invalid argument"

end DockerClient
