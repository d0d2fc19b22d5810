import DockerClient.Program.Bytes

/-
**Patterns** that a shell compares texts with.

A pattern is a text in which `*` stands for any text, `?` for any character and a set in brackets for
one of its members; a backslash takes its meaning from the next character.

* `Pattern.hasSpecial` — whether a text might be more than itself as a pattern;
* `Pattern.quote` — the pattern that stands for one text;
* `Pattern.admits` — whether a text has the form of a pattern.
-/

set_option relaxedAutoImplicit false
set_option autoImplicit false

namespace DockerClient.Pattern

/-- Whether a text might be more than itself as a pattern. -/
def hasSpecial (s : Bytes) : Bool := s.any fun c => c == '*' || c == '?' || c == '['

/-- The pattern that stands for one text. -/
def quote (s : Bytes) : Bytes := s.flatMap fun c => ['\\', c]

/-! ### Sets -/

/-- A letter of the alphabet in lower case. -/
def isLower (c : Char) : Bool := decide ('a' ≤ c) && decide (c ≤ 'z')

/-- A letter of the alphabet in upper case. -/
def isUpper (c : Char) : Bool := decide ('A' ≤ c) && decide (c ≤ 'Z')

/-- A decimal digit. -/
def isDigit (c : Char) : Bool := decide ('0' ≤ c) && decide (c ≤ '9')

/-- The classes of characters by their names. -/
def classOf? (name : String) : Option (Char → Bool) :=
  let alpha (c : Char) : Bool := isLower c || isUpper c
  let graph (c : Char) : Bool := decide ('!' ≤ c) && decide (c ≤ '~')
  match name with
  | "alnum" => some fun c => alpha c || isDigit c
  | "alpha" => some alpha
  | "blank" => some fun c => c == ' ' || c == '\t'
  | "cntrl" => some fun c => decide (c < ' ') || c == '\x7f'
  | "digit" => some isDigit
  | "graph" => some graph
  | "lower" => some isLower
  | "print" => some fun c => graph c || c == ' '
  | "punct" => some fun c => graph c && !(alpha c || isDigit c)
  | "space" => some fun c => c == ' ' || (decide ('\t' ≤ c) && decide (c ≤ '\r'))
  | "upper" => some isUpper
  | "xdigit" => some fun c =>
      isDigit c || (decide ('a' ≤ c) && decide (c ≤ 'f')) || (decide ('A' ≤ c) && decide (c ≤ 'F'))
  | _ => none

/-- The class that is named after an opening bracket, and what follows it. -/
def classAt? (s : Bytes) : Option ((Char → Bool) × Bytes) :=
  match s with
  | ':' :: rest =>
      let name := rest.takeWhile fun c => c != ':' && c != ']'
      match rest.drop name.length with
      | ':' :: ']' :: after => (classOf? (String.ofList name)).map (·, after)
      | _ => none
  | _ => none

/-- The place of a character among those that ranges go through: the upper half of the bytes comes
before the lower one. -/
def rank (c : Char) : Nat := (c.toNat + 128) % 256

/-- Whether a set up to its closing bracket holds a character, and what follows it; none if the set
is not closed.  A bracket that comes first is a member. -/
def setHolds (chr : Char) : Nat → Bool → Bool → Bytes → Option (Bool × Bytes)
  | 0, _, _, _ => none
  | _ + 1, _, _, [] => none
  | fuel + 1, first, found, c :: s =>
      if c = ']' ∧ !first then some (found, s)
      else
        match (if c = '[' then classAt? s else none) with
        | some (p, after) => setHolds chr fuel false (found || p chr) after
        | none =>
            match (if c = '\\' then s else c :: s) with
            | [] => none
            | low :: s =>
                match s with
                | '-' :: ']' :: _ => setHolds chr fuel false (found || low == chr) s
                | '-' :: '\\' :: high :: rest =>
                    setHolds chr fuel false
                      (found || (decide (rank low ≤ rank chr) && decide (rank chr ≤ rank high))) rest
                | '-' :: high :: rest =>
                    setHolds chr fuel false
                      (found || (decide (rank low ≤ rank chr) && decide (rank chr ≤ rank high))) rest
                | _ => setHolds chr fuel false (found || low == chr) s

/-- What a pattern stands for at its beginning. -/
inductive Head where
  | done
  | char (c : Char) (rest : Bytes)
  | any (rest : Bytes)
  | many (rest : Bytes)
  | set (negated : Bool) (members : Bytes)

/-- The beginning of a pattern. -/
def headOf : Bytes → Head
  | [] => .done
  | '\\' :: c :: rest => .char c rest
  | '?' :: rest => .any rest
  | '*' :: rest => .many (rest.dropWhile (· = '*'))
  | '[' :: '!' :: rest => .set true rest
  | '[' :: rest => .set false rest
  | c :: rest => .char c rest

/-! ### Matching -/

/-- Whether a text or an end of it satisfies a condition. -/
def anyEnd (p : Bytes → Bool) : Bytes → Bool
  | [] => p []
  | c :: s => p (c :: s) || anyEnd p s

/-- Whether a text has the form of a pattern; the pattern is at most as long as the fuel. -/
def admitsWithin : Nat → Bytes → Bytes → Bool
  | 0, _, _ => false
  | fuel + 1, pattern, s =>
      match headOf pattern, s with
      | .done, s => s.isEmpty
      | .char d rest, c :: s => c == d && admitsWithin fuel rest s
      | .any rest, _ :: s => admitsWithin fuel rest s
      | .many rest, s => rest.isEmpty || anyEnd (admitsWithin fuel rest) s
      | .set negated members, c :: s =>
          match setHolds c (members.length + 1) true false members with
          | some (found, rest) => found != negated && admitsWithin fuel rest s
          | none => c == '[' && admitsWithin fuel (pattern.drop 1) s
      | _, [] => false

/-- Whether a text has the form of a pattern. -/
def admits (pattern s : Bytes) : Bool := admitsWithin (pattern.length + 1) pattern s

end DockerClient.Pattern
