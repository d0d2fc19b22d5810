/-
**DER**: nested elements of bytes.

* `Der.Element` — a tag and a content;
* `Der.element?`, `Der.elements?` — reads the first element, and all elements;
* `Der.only?` — the content of the one element with a given tag.
-/

set_option relaxedAutoImplicit false
set_option autoImplicit false

namespace DockerClient.Der

/-- A tag and a content. -/
structure Element where
  tag : UInt8
  content : List UInt8
deriving DecidableEq, Repr

/-! ### Reading -/

/-- The number that bytes are. -/
def number (bytes : List UInt8) : Nat := bytes.foldl (fun n b => 256 * n + b.toNat) 0

/-- A length, and what follows it.  Lengths are written as short as they can be. -/
def length? : List UInt8 → Option (Nat × List UInt8)
  | [] => none
  | b :: rest =>
      if b < 128 then some (b.toNat, rest)
      else
        let width := b.toNat - 128
        let n := number (rest.take width)
        let shortest := if width = 1 then 128 else Nat.pow 256 (width - 1)
        if 1 ≤ width ∧ width ≤ 4 ∧ width ≤ rest.length ∧ shortest ≤ n then
          some (n, rest.drop width)
        else none

/-- The first element, and what follows it.  Tags have one byte. -/
def element? : List UInt8 → Option (Element × List UInt8)
  | [] => none
  | tag :: rest =>
      if tag &&& 31 = 31 then none
      else
        match length? rest with
        | none => none
        | some (n, body) =>
            if n ≤ body.length then some (⟨tag, body.take n⟩, body.drop n) else none

/-- All elements, if nothing but elements is there. -/
def elementsWithin : Nat → List UInt8 → Option (List Element)
  | _, [] => some []
  | 0, _ :: _ => none
  | fuel + 1, bytes =>
      match element? bytes with
      | none => none
      | some (e, rest) => (elementsWithin fuel rest).map (e :: ·)

/-- All elements of a content. -/
def elements? (bytes : List UInt8) : Option (List Element) := elementsWithin bytes.length bytes

/-- The content of the one element, which has the given tag. -/
def only? (tag : UInt8) (bytes : List UInt8) : Option (List UInt8) :=
  match element? bytes with
  | some (e, []) => if e.tag = tag then some e.content else none
  | _ => none

/-! ### Tags -/

/-- The tag of a truth value. -/
def boolean : UInt8 := 0x01

/-- The tag of a number. -/
def integer : UInt8 := 0x02

/-- The tag of a sequence of bits. -/
def bits : UInt8 := 0x03

/-- The tag of a sequence of bytes. -/
def octets : UInt8 := 0x04

/-- The tag of an identifier. -/
def identifier : UInt8 := 0x06

/-- The tag of a sequence of elements. -/
def sequence : UInt8 := 0x30

/-- The tag of the optional part with a number. -/
def part (n : UInt8) : UInt8 := 0xA0 + n

end DockerClient.Der
