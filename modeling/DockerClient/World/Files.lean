/-
**Files**, as far as the library looks at them.

* `Files` — any file system: what reading a path gives, and whether something is there;
* `ReadFailure` — why a path can not be read.
-/

set_option relaxedAutoImplicit false
set_option autoImplicit false

namespace DockerClient

/-- Why a path can not be read: nothing is there, or reading failed. -/
inductive ReadFailure where
  | absent
  | failed
deriving DecidableEq, Repr

/-- A file system: the content of every path that can be read, and whether something is there.
A path that can not be probed counts as one where nothing is. -/
structure Files where
  read : String → Except ReadFailure (List UInt8)
  present : String → Bool

/-- The file system without files. -/
def Files.none : Files := ⟨fun _ => .error .absent, fun _ => false⟩

end DockerClient
