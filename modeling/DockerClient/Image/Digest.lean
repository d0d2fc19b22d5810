import DockerClient.Error.Basic
import DockerClient.Text.Ascii
import DockerClient.Text.Cut
import DockerClient.Text.Utf8

/-
**Image digests**: an algorithm, a colon, and as many hexadecimal digits as it produces.

* `Digest.length?` — the number of digits of an algorithm;
* `Digest.check` — accepts a digest, or names its first fault.
-/

set_option relaxedAutoImplicit false
set_option autoImplicit false

namespace DockerClient.Digest

/-- The number of digits that an algorithm produces. -/
def length? (algorithm : String) : Option Nat :=
  if algorithm = "sha256" then some 64
  else if algorithm = "sha512" then some 128
  else none

/-- The first fault of a digest, if it has one.  The length is counted in bytes. -/
def fault? (digest : String) : Option ArgumentFault :=
  match Text.splitFirst digest ':' with
  | none => some (.digestForm digest)
  | some (algorithm, digits) =>
      match length? algorithm with
      | none => some (.digestAlgorithm algorithm)
      | some expected =>
          if digits.utf8ByteSize ≠ expected then
            some (.digestLength algorithm expected digits.utf8ByteSize)
          else if digits.toList.all Text.isHexDigit then none
          else some (.digestCharacters digest)

/-- Accepts a digest, or names its first fault. -/
def check (digest : String) : Except Error Unit :=
  match fault? digest with
  | some fault => .error (.invalidArgument fault)
  | none => .ok ()

end DockerClient.Digest
