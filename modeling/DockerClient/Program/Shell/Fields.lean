import DockerClient.Program.Bytes

/-
**Fields.**

Words become fields.  While a word is expanded, its characters are kept as cells, which tell quoted
characters from others, and the parts that separators may divide are noted as regions.

* `Shell.Cell`, `Shell.Buffer` — a word that is being expanded;
* `Shell.Buffer.fields` — the fields that a buffer falls into;
* `Shell.plainText`, `Shell.patternText` — a text without its marks, and the pattern that it is.
-/

set_option relaxedAutoImplicit false
set_option autoImplicit false

namespace DockerClient.Shell

/-- A character of a word, or the place where a quote begins or ends. -/
inductive Cell where
  | plain (c : Char)
  | escaped (c : Char)
  | quote
deriving DecidableEq, Repr

/-- A part of a word that separators may divide, or only the boundaries of parameters. -/
structure Region where
  start : Nat
  stop : Nat
  boundariesOnly : Bool
deriving Repr

/-- A word that is being expanded. -/
structure Buffer where
  cells : Array Cell := #[]
  regions : List Region := []

namespace Buffer

/-- How long the word is so far. -/
def size (b : Buffer) : Nat := b.cells.size

/-- Adds a cell. -/
def push (b : Buffer) (c : Cell) : Buffer := { b with cells := b.cells.push c }

/-- Notes a region, the last one first. -/
def note (b : Buffer) (start : Nat) (boundariesOnly : Bool) : Buffer :=
  { b with regions := ⟨start, b.size, boundariesOnly⟩ :: b.regions }

/-- The cells from a place on. -/
def after (b : Buffer) (place : Nat) : List Cell := (b.cells.toList).drop place

end Buffer

/-! ### Texts -/

/-- The text of cells. -/
def plainText : List Cell → Bytes
  | [] => []
  | .plain c :: rest => c :: plainText rest
  | .escaped c :: rest => c :: plainText rest
  | .quote :: rest => plainText rest

/-- The pattern that cells are: what is escaped stands behind a backslash.  A backslash that is not
escaped takes the meaning of the next character itself. -/
def patternFrom (inQuotes escapes : Bool) : List Cell → Bytes
  | [] => []
  | .quote :: rest => patternFrom (!inQuotes) escapes rest
  | .plain '\\' :: rest => '\\' :: patternFrom inQuotes false rest
  | .plain c :: rest => c :: patternFrom inQuotes true rest
  | .escaped c :: rest =>
      let after := c :: patternFrom inQuotes true rest
      if escapes then '\\' :: after
      else if inQuotes then '\\' :: '\\' :: after
      else after

/-- The pattern that cells are. -/
def patternText (cells : List Cell) : Bytes := patternFrom false true cells

/-! ### Dividing -/

/-- The state of dividing a word: where the field begins, whether white space may follow, where the
rest is to be cut off, how many fields may still be divided off, and the fields so far, the last one
first. -/
structure Division where
  start : Nat := 0
  inSpace : Bool := false
  cutAt : Option Nat := none
  left : Option Nat := none
  fields : List (Nat × Nat) := []

/-- Whether a character is white space that separates. -/
def isSpace (c : Char) : Bool := c == ' ' || c == '\t' || c == '\n' || c == '\x00'

/-- Looks at a character in a region.  Separators that are white space count as one with those
around them; what is to be left of the last field begins where it can be cut off. -/
def Division.step (separators : Bytes) (boundariesOnly afterBoundaries : Bool) (q : Nat) (c : Char)
    (d : Division) : Division :=
  let separates := c == '\x00' || (!boundariesOnly && separators.contains c)
  let space := separates && isSpace c
  if d.left = some 0 then
    if space then { d with cutAt := some (d.cutAt.getD q) }
    else
      { d with cutAt := if separates && d.inSpace then d.cutAt else none, inSpace := false }
  else if d.inSpace then
    { d with start := if separates then q + 1 else q, inSpace := space }
  else if separates then
    let inSpace := !afterBoundaries && !boundariesOnly && space
    if q = d.start ∧ inSpace then { d with start := q + 1 }
    else if d.left = some 1 then { d with left := some 0, cutAt := some q, inSpace := inSpace }
    else
      { d with left := d.left.map (· - 1), fields := (d.start, q) :: d.fields, start := q + 1,
               inSpace := inSpace }
  else d

/-- The character of a cell. -/
def Cell.char : Cell → Char
  | .plain c => c
  | .escaped c => c
  | .quote => '\x88'

/-- Looks at the characters of a region, from a place on. -/
def Division.walk (separators : Bytes) (boundariesOnly afterBoundaries : Bool) :
    Nat → List Cell → Division → Division
  | _, [], d => d
  | q, cell :: rest, d =>
      walk separators boundariesOnly afterBoundaries (q + 1) rest
        (d.step separators boundariesOnly afterBoundaries q cell.char)

/-- Looks at the regions in order. -/
def Division.walkRegions (separators : Bytes) (cells : Array Cell) :
    Bool → List Region → Division → Bool × Division
  | after, [], d => (after, d)
  | after, r :: rest, d =>
      let part := (cells.extract r.start r.stop).toList
      let d := Division.walk separators r.boundariesOnly after r.start part { d with inSpace := false }
      walkRegions separators cells r.boundariesOnly rest d

/-- The fields that a word falls into; `left` bounds their number. -/
def Buffer.divide (b : Buffer) (separators : Bytes) (left : Option Nat) : List (List Cell) :=
  let (endsInBoundaries, d) :=
    Division.walkRegions separators b.cells false b.regions.reverse { left := left }
  let field (start stop : Nat) : List Cell := (b.cells.extract start stop).toList
  let divided := d.fields.reverse.map fun f => field f.1 f.2
  let rest := field d.start (if endsInBoundaries then b.size else d.cutAt.getD b.size)
  if rest.isEmpty && !endsInBoundaries then divided else divided ++ [rest]

/-- The fields that a word falls into. -/
def Buffer.fields (b : Buffer) (separators : Bytes) : List (List Cell) := b.divide separators none

end DockerClient.Shell
