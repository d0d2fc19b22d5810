import DockerClient.Text.Cut
import DockerClient.Text.Utf8

/-
**Byte texts.**

Scripts, arguments and streams are sequences of bytes.  They are written as lists of characters, so
that they can be taken apart like texts; every character stands for the byte of its number.

* `Bytes` — a sequence of bytes; `Bytes.ofRaw`, `Bytes.toRaw` — from and to numbers;
* `Bytes.ofText`, `Bytes.toText` — from and to texts in UTF-8;
* `Bytes.ofInt` — a number in decimal.
-/

set_option relaxedAutoImplicit false
set_option autoImplicit false

namespace DockerClient

/-- A sequence of bytes, each a character below 256. -/
abbrev Bytes := List Char

namespace Bytes

/-- The byte of a number, modulo 256. -/
def byte (n : Nat) : Char := Char.ofNat (n % 256)

/-- Bytes that are given as numbers. -/
def ofRaw (raw : List UInt8) : Bytes := raw.map fun b => Char.ofNat b.toNat

/-- The numbers of bytes. -/
def toRaw (s : Bytes) : List UInt8 := s.map fun c => UInt8.ofNat c.toNat

/-- The bytes of a text. -/
def ofText (s : String) : Bytes := ofRaw (Text.encode s)

/-- The text that bytes encode. -/
def toText (s : Bytes) : String := Text.decodeLossy (toRaw s)

/-- A number in decimal. -/
def ofInt (n : Int) : Bytes := (toString n).toList

/-- A number in decimal. -/
def ofNat (n : Nat) : Bytes := (toString n).toList

/-- Whether the first sequence comes first, byte by byte. -/
def le : Bytes → Bytes → Bool
  | [], _ => true
  | _ :: _, [] => false
  | a :: s, b :: t => if a = b then le s t else decide (a < b)

/-- A number from the bytes of a name, by which tables of names are ordered. -/
def key (s : Bytes) : Nat :=
  (s.head?.map Char.toNat).getD 0 * 16 + s.foldl (fun n c => n + c.toNat) 0

/-- What follows a beginning, none if the sequence begins otherwise. -/
def after? : Bytes → Bytes → Option Bytes
  | [], s => some s
  | _ :: _, [] => none
  | a :: p, b :: s => if a = b then after? p s else none

end Bytes

end DockerClient
