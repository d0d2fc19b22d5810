import DockerClient.Http.DomainName
import DockerClient.Http.Target

/-
**The authority of a request over TCP**: the host and the port that it is for.

* `Host` — a name, or an address of either length;
* `Host.v4?`, `Host.v6?` — addresses in their written forms;
* `Host.ofChars?` — reads a written host;
* `Authority`, `Authority.ofText?` — reads a written authority, with whatever stands around it.
-/

set_option relaxedAutoImplicit false
set_option autoImplicit false

namespace DockerClient

/-- What a request is for. -/
inductive Host where
  | name (folded : List Char)
  | v4 (address : Nat)
  | v6 (pieces : List Nat)
deriving DecidableEq, Repr

namespace Host

/-! ### Numbers -/

/-- The number that digits of a base write; none if there is another character. -/
def number? (base : Nat) (s : List Char) : Option Nat :=
  s.foldlM (fun n c => (Text.hexValue? c).bind fun d =>
    if d < base then some (base * n + d) else none) 0

/-- A number in base ten, in base eight after a zero, or in base sixteen after `0x`. -/
def mixedNumber? : List Char → Option Nat
  | [] => none
  | '0' :: 'x' :: s => number? 16 s
  | '0' :: 'X' :: s => number? 16 s
  | '0' :: c :: s => number? 8 (c :: s)
  | s => number? 10 s

/-! ### Addresses of thirty-two bits -/

/-- The labels of a name without an empty one at its end. -/
def parts (s : List Char) : List (List Char) :=
  let labels := Text.segments '.' s
  if labels.getLast? = some [] then labels.dropLast else labels

/-- Whether a name ends in a number, which is then to be read as an address. -/
def endsInNumber (s : List Char) : Bool :=
  match (parts s).getLast? with
  | none => false
  | some last => (last != [] && last.all Char.isDigit) || (mixedNumber? last).isSome

/-- An address as numbers between dots, of which the last one fills what the others leave. -/
def v4? (s : List Char) : Option Nat := do
  let numbers ← (parts s).mapM mixedNumber?
  let last ← numbers.getLast?
  let before := numbers.dropLast
  let sum := before.foldl (fun n b => 256 * n + b) 0 * Nat.pow 256 (4 - before.length) + last
  if before.length < 4 ∧ before.all (· < 256) = true ∧ last < Nat.pow 256 (4 - before.length)
      ∧ sum < Nat.pow 2 32 then
    some sum
  else none

/-! ### Addresses of a hundred and twenty-eight bits -/

/-- One piece of an address: up to four hexadecimal digits. -/
def piece? (s : List Char) : Option Nat :=
  if s ≠ [] ∧ s.length ≤ 4 then number? 16 s else none

/-- A number below 256 in base ten without further zeros in front. -/
def octet? (s : List Char) : Option Nat :=
  if s = [] ∨ (1 < s.length ∧ s.head? = some '0') then none
  else (number? 10 s).filter (· < 256)

/-- The two pieces that four octets between dots make. -/
def octetPieces? (s : List Char) : Option (List Nat) :=
  match (Text.segments '.' s).mapM octet? with
  | some [a, b, c, d] => some [256 * a + b, 256 * c + d]
  | _ => none

/-- The pieces of a part of an address; at its end octets may stand for the last two. -/
def pieces? (atEnd : Bool) : List (List Char) → Option (List Nat)
  | [] => some []
  | s :: rest =>
      if atEnd && rest.isEmpty && s.contains '.' then octetPieces? s
      else do return (← piece? s) :: (← pieces? atEnd rest)

/-- The texts between colons; none in an empty text. -/
def betweenColons (s : List Char) : List (List Char) :=
  if s.isEmpty then [] else Text.segments ':' s

/-- An address as eight pieces between colons; a double colon stands for pieces that are zero. -/
def v6? (s : List Char) : Option (List Nat) :=
  match Text.cutAt [':', ':'] s with
  | none => (pieces? true (betweenColons s)).filter (·.length == 8)
  | some (before, after) => do
      let first ← pieces? false (betweenColons before)
      let last ← pieces? true (betweenColons after)
      if first.length + last.length < 8 then
        some (first ++ List.replicate (8 - first.length - last.length) 0 ++ last)
      else none

/-! ### Hosts -/

/-- Reads a written host. -/
def ofChars? (s : List Char) : Option Host :=
  match s with
  | '[' :: rest =>
      if rest.getLast? = some ']' then (v6? rest.dropLast).map .v6 else none
  | s => do
      let text ← Text.decode? (Target.percentDecode s)
      let folded ← DomainName.fold? text.toList
      if endsInNumber folded then (v4? folded).map .v4 else some (.name folded)

end Host

/-- The host and the port that a request is for. -/
structure Authority where
  host : Host
  port : Option Nat
deriving DecidableEq, Repr

namespace Authority

/-- The text before the first colon outside of brackets, and the text from there on. -/
def splitPort : Bool → List Char → List Char × List Char
  | _, [] => ([], [])
  | inside, c :: rest =>
      if c = ':' ∧ inside = false then ([], c :: rest)
      else
        let (host, port) := splitPort (if c = '[' then true else if c = ']' then false else inside)
          rest
        (c :: host, port)

/-- Reads what stands after a host: nothing, or a colon and a number that may be left out. -/
def port? : List Char → Option (Option Nat)
  | [] => some none
  | [':'] => some none
  | _ :: s => ((Host.number? 10 s).filter (· < 65536)).map some

/-- The characters that end an authority. -/
def isEnd (c : Char) : Bool := c = '/' || c = '\\' || c = '?' || c = '#'

/-- The authority in a text without what is not read of it: slashes in front, what follows it, and
the user. -/
def readable (s : List Char) : List Char :=
  let s := s.filter fun c => c != '\t' && c != '\n' && c != '\x0d'
  let s := (s.dropWhile fun c => c = '/' || c = '\\').takeWhile fun c => !isEnd c
  (s.reverse.takeWhile (· ≠ '@')).reverse

/-- Reads a written authority. -/
def ofText? (s : String) : Option Authority := do
  let (host, port) := splitPort false (readable s.toList)
  return ⟨← Host.ofChars? host, ← port? port⟩

end Authority

end DockerClient
