import DockerClient.Text.Ascii
import DockerClient.Text.Cut
import DockerClient.Text.Utf8

/-
**Request targets**: the path and the query of a request.

A target is written as a text in which a question mark begins a query and a number sign a fragment.

* `Target` — an encoded path and the decoded query after it;
* `Target.ofText` — reads a written target;
* `Target.encodeSegment` — the encoded form of a part of a path;
* `Target.normalize` — a path without `.` and `..`.
-/

set_option relaxedAutoImplicit false
set_option autoImplicit false

namespace DockerClient

/-- A path and the query after it. -/
structure Target where
  path : String
  query : List (String × String) := []
deriving DecidableEq, Repr

namespace Target

/-! ### Paths -/

/-- The characters that are encoded in a path, besides controls and those beyond ASCII. -/
def reserved : List Char := [' ', '"', '<', '>', '\x60', '#', '?', '\x7B', '\x7D']

/-- Whether a character stands in a path as it is. -/
def isPlain (c : Char) : Bool :=
  decide (32 ≤ c.toNat) && decide (c.toNat < 127) && !reserved.contains c

/-- The encoded form of a byte. -/
def encodeByte (b : UInt8) : List Char := '%' :: (Text.hexOfByte b).map Char.toUpper

/-- The encoded form of a character. -/
def encodeChar (c : Char) : List Char :=
  if isPlain c then [c] else (String.utf8EncodeChar c).flatMap encodeByte

/-- The encoded form of a part of a path. -/
def encodeSegment (s : List Char) : List Char := s.flatMap encodeChar

/-- Whether a part of a path stands for the place that it is in. -/
def isHere (s : List Char) : Bool := s == ['.'] || Text.sameIgnoringCase (String.ofList s) "%2e"

/-- Whether a part of a path stands for the place above. -/
def isAbove (s : List Char) : Bool :=
  s == ['.', '.'] || Text.sameIgnoringCase (String.ofList s) "%2e%2e"
    || Text.sameIgnoringCase (String.ofList s) ".%2e"
    || Text.sameIgnoringCase (String.ofList s) "%2e."

/-- The parts of a path without those that stand for a place, given the parts before them from the
last to the first.  A path that ends in such a part ends in an empty one. -/
def normalize : List (List Char) → List (List Char) → List (List Char)
  | before, [] => before.reverse
  | before, s :: rest =>
      if isHere s then normalize (if rest.isEmpty then [] :: before else before) rest
      else if isAbove s then
        normalize (if rest.isEmpty then [] :: before.drop 1 else before.drop 1) rest
      else normalize (s :: before) rest

/-- The encoded form of a path that begins with a slash. -/
def encodePath (s : List Char) : String :=
  String.ofList
    ((normalize [] ((Text.segments '/' s).drop 1)).flatMap fun part => '/' :: encodeSegment part)

/-! ### Queries -/

/-- The bytes that an encoded text stands for. -/
def percentDecode : List Char → List UInt8
  | '%' :: a :: b :: rest =>
      match Text.hexValue? a, Text.hexValue? b with
      | some m, some n => UInt8.ofNat (16 * m + n) :: percentDecode rest
      | _, _ => 37 :: percentDecode (a :: b :: rest)
  | c :: rest => String.utf8EncodeChar c ++ percentDecode rest
  | [] => []

/-- The text that a part of a query stands for; a plus sign is a space. -/
def decodePart (s : List Char) : String :=
  Text.decodeLossy (percentDecode (s.map fun c => if c = '+' then ' ' else c))

/-- The names and values of a query. -/
def decodeQuery (s : List Char) : List (String × String) :=
  let parts := (s.splitBy fun a b => a != '&' && b != '&').filter (· ≠ ['&'])
  parts.map fun part =>
    (decodePart (part.takeWhile (· ≠ '=')), decodePart ((part.dropWhile (· ≠ '=')).drop 1))

/-! ### Targets -/

/-- A control character or a space. -/
def isEdge (c : Char) : Bool := decide (c.toNat ≤ 32)

/-- A text without what is not read of it: controls and spaces at its end, tabs, line ends, and a
fragment. -/
def readable (s : List Char) : List Char :=
  (((s.reverse.dropWhile isEdge).reverse).filter
    fun c => c != '\t' && c != '\n' && c != '\x0d').takeWhile (· ≠ '#')

/-- The path with slashes alone between its parts. -/
def withSlashes (s : List Char) : List Char := s.map fun c => if c = '\\' then '/' else c

/-- Reads a written target, in which backslashes may count as slashes before the query. -/
def ofText (backslashes : Bool) (s : String) : Target :=
  let text := readable s.toList
  let path := text.takeWhile (· ≠ '?')
  ⟨encodePath (if backslashes then withSlashes path else path),
    decodeQuery ((text.dropWhile (· ≠ '?')).drop 1)⟩

end Target

end DockerClient
