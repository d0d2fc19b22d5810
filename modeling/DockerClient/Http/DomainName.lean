import DockerClient.Text.Cut
import DockerClient.Text.Extending
import DockerClient.Text.Hidden

/-
**Host names**, beyond ASCII too.

A name is compared and looked up in a folded form: small letters, no marks that nobody sees, and
one kind of dot.  A label that begins with `xn--` spells characters beyond ASCII in ASCII.

* `DomainName.spelled?` — the characters that such a label spells;
* `DomainName.fold?` — the folded form of a name; none if it holds what no name holds.
-/

set_option relaxedAutoImplicit false
set_option autoImplicit false

namespace DockerClient.DomainName

/-! ### Characters -/

/-- The characters of ASCII that no name holds. -/
def forbiddenMarks : List Char :=
  [' ', '"', '#', '%', '/', ':', '<', '>', '?', '@', '[', '\\', ']', '^', '\x60', '\x7b', '|',
   '\x7d', '\x7f']

/-- The marks that nobody sees. -/
def unseenRanges : List (Nat × Nat) :=
  [(0xAD, 0xAD), (0x34F, 0x34F), (0x180B, 0x180D), (0x180F, 0x180F), (0x200B, 0x200B),
   (0x2060, 0x2060), (0x2064, 0x2064), (0xFE00, 0xFE0F), (0xFEFF, 0xFEFF)]

/-- The dots between labels, besides the full stop. -/
def dots : List Char := ['。', '．', '｡']

/-- Whether names may hold a character. -/
def isAllowed (c : Char) : Bool :=
  !forbiddenMarks.contains c && !Text.isHidden c && c != '\uFFFC' && c != '\uFFFD'

/-- The folded form of a character: a wide form becomes the plain one. -/
def foldChar (c : Char) : Char :=
  if dots.contains c then '.'
  else if Text.isWithin [(0xFF01, 0xFF5E)] c then (Char.ofNat (c.toNat - 0xFEE0)).toLower
  else c.toLower

/-! ### Labels beyond ASCII

Each further character is written as the distance from the one before it in the order of all
pairs of a character and a place; distances are written with the low digits first. -/

/-- The value of a digit: letters, then figures. -/
def digit? (c : Char) : Option Nat :=
  if 'a' ≤ c ∧ c ≤ 'z' then some (c.toNat - 97)
  else if '0' ≤ c ∧ c ≤ '9' then some (c.toNat - 22)
  else none

/-- The least value of a digit that does not end a distance, given the weight of its place. -/
def threshold (place bias : Nat) : Nat := min 26 (max 1 (place - bias))

/-- A distance, and what is written after it. -/
def distance? (bias : Nat) : Nat → Nat → Nat → List Char → Option (Nat × List Char)
  | _, _, _, [] => none
  | place, weight, sum, c :: rest => do
      let d ← digit? c
      let t := threshold place bias
      if d < t then return (sum + d * weight, rest)
      distance? bias (place + 36) (weight * (36 - t)) (sum + d * weight) rest

theorem length_distance? {bias place weight sum : Nat} {s : List Char} {r : Nat × List Char}
    (h : distance? bias place weight sum s = some r) : r.2.length < s.length := by
  induction s generalizing place weight sum with
  | nil => simp [distance?] at h
  | cons c rest ih =>
      simp only [distance?, Option.bind_eq_bind, Option.bind_eq_some_iff] at h
      obtain ⟨d, -, h⟩ := h
      split at h
      · cases h; simp
      · exact Nat.lt_succ_of_lt (ih h)

/-- How far digits are expected to go after a distance, given how many characters there are. -/
def settle (distance count : Nat) (isFirst : Bool) : Nat :=
  let d := if isFirst then distance / 700 else distance / 2
  shrink (d + d / count) 0
where
  /-- Counts the places that are surely needed. -/
  shrink (d place : Nat) : Nat :=
    if _h : 455 < d then shrink (d / 35) (place + 36) else place + 36 * d / (d + 38)
  termination_by d
  decreasing_by exact Nat.div_lt_self (by omega) (by omega)

/-- Puts the written characters into a label. -/
def insertAll (bias code position : Nat) (label : List Char) (s : List Char) :
    Option (List Char) :=
  match s with
  | [] => some label
  | c :: rest =>
      match _h : distance? bias 36 1 position (c :: rest) with
      | none => none
      | some (sum, more) =>
          let count := label.length + 1
          let code' := code + sum / count
          if code'.isValidChar then
            insertAll (settle (sum - position) count (position == 0)) code' (sum % count + 1)
              (label.insertIdx (sum % count) (Char.ofNat code')) more
          else none
termination_by s.length
decreasing_by exact length_distance? ‹_›

/-- How a label begins that spells characters beyond ASCII. -/
def spellingMark : List Char := ['x', 'n', '-', '-']

/-- The characters that the part after the mark spells: the plain ones stand first, up to the last
hyphen. -/
def spelled? (s : List Char) : Option (List Char) :=
  let tail := (s.reverse.takeWhile (· ≠ '-')).reverse
  let plain := s.take (s.length - tail.length - 1)
  insertAll 72 128 0 plain tail

/-- Whether characters may be a label: the first one stands alone. -/
def isShown (label : List Char) : Bool :=
  label.all isAllowed && !(label.head?.map Text.isExtending).getD false

/-- Whether a label stands for a name: one that spells characters has some beyond ASCII, and all of
them are such as names hold in their folded form. -/
def isLabel (label : List Char) : Bool :=
  isShown label &&
    (!spellingMark.isPrefixOf label ||
      match spelled? (label.drop spellingMark.length) with
      | none => false
      | some s =>
          isShown s && s.any (fun c => decide (127 < c.toNat))
            && s.all fun c => !Text.isWithin unseenRanges c && foldChar c == c)

/-! ### Names -/

/-- The folded form of a name; none if it holds what no name holds, or nothing at all. -/
def fold? (s : List Char) : Option (List Char) :=
  let folded := (s.filter fun c => !Text.isWithin unseenRanges c).map foldChar
  if folded ≠ [] ∧ folded.all isAllowed = true ∧ (Text.segments '.' folded).all isLabel = true then
    some folded
  else none

end DockerClient.DomainName
