import DockerClient.Encoding.Base64
import DockerClient.Text.Utf8

/-
**PEM files**: sections of encoded bytes between lines of dashes.

* `Pem.Section` — the label and the bytes of a section;
* `Pem.Reading`, `Pem.read` — the sections of a file, and whether all of it could be read;
* `Pem.bytes?` — the bytes of a section's text, whose white space and padding do not matter.
-/

set_option relaxedAutoImplicit false
set_option autoImplicit false

namespace DockerClient.Pem

/-- The label and the bytes of a section. -/
structure Section where
  label : List UInt8
  content : List UInt8
deriving DecidableEq, Repr

/-- The sections that could be read, and whether these are all. -/
structure Reading where
  sections : List Section
  complete : Bool
deriving DecidableEq, Repr

/-! ### The text of a section -/

/-- White space between symbols. -/
def isBlank (b : UInt8) : Bool := b == 32 || (decide (9 ≤ b) && decide (b ≤ 13))

/-- The bytes that six-bit values stand for; bits that are left over do not matter. -/
def bytesOf : List Nat → Option (List UInt8)
  | [] => some []
  | [_] => none
  | [a, b] => some [UInt8.ofNat (a * 4 + b / 16)]
  | [a, b, c] => some [UInt8.ofNat (a * 4 + b / 16), UInt8.ofNat (b % 16 * 16 + c / 4)]
  | a :: b :: c :: d :: rest =>
      (bytesOf rest).map fun bytes =>
        UInt8.ofNat (a * 4 + b / 16) :: UInt8.ofNat (b % 16 * 16 + c / 4)
          :: UInt8.ofNat (c % 4 * 64 + d) :: bytes

/-- The bytes of a section's text: symbols, then padding. -/
def bytes? (text : List UInt8) : Option (List UInt8) :=
  let symbols := text.filter fun b => !isBlank b
  if (symbols.dropWhile (· ≠ Base64.pad)).all (· == Base64.pad) then
    ((symbols.takeWhile (· ≠ Base64.pad)).mapM Base64.value?).bind bytesOf
  else none

/-! ### Lines -/

/-- The end of a line. -/
def isLineEnd (b : UInt8) : Bool := b == 10 || b == 13

/-- The lines of a file, without their ends. -/
def lines : List UInt8 → List (List UInt8)
  | [] => []
  | b :: rest =>
      if isLineEnd b then [] :: lines rest
      else
        match lines rest with
        | [] => [[b]]
        | line :: more => (b :: line) :: more

/-- How a section begins. -/
def opening : List UInt8 := Text.encode "-----BEGIN "

/-- How the line that ends a section with a label begins. -/
def closing (label : List UInt8) : List UInt8 :=
  Text.encode "-----END " ++ label ++ Text.encode "-----"

/-- The dashes at the end of a line, between which spaces may stand, and the line before them. -/
def dashesAtEnd : List UInt8 → Nat → List UInt8 → Nat × List UInt8
  | [], n, before => (n, before)
  | b :: rest, n, before =>
      if b = 45 then dashesAtEnd rest (n + 1) rest
      else if b = 32 then dashesAtEnd rest n before
      else (n, before)

/-- The label in the first line of a section, if the line ends as it should. -/
def labelOf (line : List UInt8) : Option (List UInt8) :=
  let (dashes, before) := dashesAtEnd line.reverse 0 line.reverse
  if dashes = 5 then some (before.reverse.drop opening.length) else none

/-! ### Files -/

/-- The labels of sections whose text is looked at. -/
def labels : List (List UInt8) :=
  ["CERTIFICATE", "PUBLIC KEY", "RSA PRIVATE KEY", "PRIVATE KEY", "EC PRIVATE KEY", "X509 CRL",
   "CERTIFICATE REQUEST", "ECHCONFIG"].map Text.encode

/-- The sections in lines, given the label of the open section and the text collected so far. -/
def readLines : Option (List UInt8) → List UInt8 → List (List UInt8) → Reading
  | none, _, [] => ⟨[], true⟩
  | some _, _, [] => ⟨[], false⟩
  | current, text, line :: rest =>
      if opening.isPrefixOf line then
        match labelOf line with
        | some label => readLines (some label) text rest
        | none => ⟨[], false⟩
      else
        match current with
        | none => readLines none text rest
        | some label =>
            if (closing label).isPrefixOf line then
              if labels.contains label then
                match bytes? text with
                | none => ⟨[], false⟩
                | some content =>
                    let more := readLines none [] rest
                    ⟨⟨label, content⟩ :: more.sections, more.complete⟩
              else readLines none [] rest
            else readLines current (text ++ line) rest

/-- The sections of a file. -/
def read (file : List UInt8) : Reading := readLines none [] (lines file)

end DockerClient.Pem
