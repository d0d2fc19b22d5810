/-
**The syntax of JSON**, read from bytes.

Reading stops at the first thing that is wrong and says whether the text ended too early or has the
wrong form.  Numbers and strings are kept as they are written: whether a number fits and whether a
string is well formed text matters only where a value is used, and is decided there.

* `Json.Raw` — a value as it is written;
* `Json.Raw.read` — reads a whole text;
* `Json.Stop` — why reading stopped;
* `Json.stringBody`, `Json.number` — the pieces between quotes and the written forms of numbers.
-/

set_option relaxedAutoImplicit false
set_option autoImplicit false

namespace DockerClient.Json

/-- A value as it is written. -/
inductive Raw where
  | null
  | bool (value : Bool)
  | number (lexeme : List UInt8)
  | string (body : List UInt8)
  | array (items : List Raw)
  | object (members : List (List UInt8 × Raw))
deriving Repr

/-- Why reading stopped: the text ended too early, or it has the wrong form. -/
inductive Stop where
  | truncated
  | malformed
deriving DecidableEq, Repr

/-- What was read and what is left, or why reading stopped. -/
abbrev Read (α : Type) := Except Stop (α × List UInt8)

/-! ### Bytes -/

/-- Space, tab, line feed and carriage return. -/
def isBlank (b : UInt8) : Bool := b == 0x20 || b == 0x09 || b == 0x0A || b == 0x0D

/-- A decimal digit. -/
def isDigit (b : UInt8) : Bool := decide (0x30 ≤ b) && decide (b ≤ 0x39)

/-- The value of a hexadecimal digit of either case. -/
def hexValue? (b : UInt8) : Option Nat :=
  if 0x30 ≤ b ∧ b ≤ 0x39 then some (b.toNat - 0x30)
  else if 0x61 ≤ b ∧ b ≤ 0x66 then some (b.toNat - 0x57)
  else if 0x41 ≤ b ∧ b ≤ 0x46 then some (b.toNat - 0x37)
  else none

/-- The text after its white space. -/
def skipBlank (s : List UInt8) : List UInt8 := s.dropWhile isBlank

/-- What a one-letter escape stands for. -/
def shortEscape? (b : UInt8) : Option UInt8 :=
  if b = 0x22 ∨ b = 0x5C ∨ b = 0x2F then some b
  else if b = 0x62 then some 0x08
  else if b = 0x66 then some 0x0C
  else if b = 0x6E then some 0x0A
  else if b = 0x72 then some 0x0D
  else if b = 0x74 then some 0x09
  else none

/-! ### Strings and numbers -/

/-- A string after its opening quote, up to its closing one.  Escapes keep their written form. -/
def stringBody : List UInt8 → Read (List UInt8)
  | [] => .error .truncated
  | b :: rest =>
      if b = 0x22 then .ok ([], rest)
      else if b < 0x20 then .error .malformed
      else if b = 0x5C then
        match rest with
        | [] => .error .truncated
        | e :: rest =>
            if (shortEscape? e).isSome then
              (stringBody rest).map fun r => (b :: e :: r.1, r.2)
            else if e = 0x75 then
              match rest with
              | w :: x :: y :: z :: rest =>
                  if [w, x, y, z].all fun d => (hexValue? d).isSome then
                    (stringBody rest).map fun r => (b :: e :: w :: x :: y :: z :: r.1, r.2)
                  else .error .malformed
              | _ => .error .truncated
            else .error .malformed
      else (stringBody rest).map fun r => (b :: r.1, r.2)

/-- One digit at least, as far as digits go. -/
def digits (s : List UInt8) : Read (List UInt8) :=
  match s.takeWhile isDigit, s with
  | [], [] => .error .truncated
  | [], _ => .error .malformed
  | ds, _ => .ok (ds, s.dropWhile isDigit)

/-- The whole part of a number: no digit follows a leading zero. -/
def wholePart (s : List UInt8) : Read (List UInt8) :=
  match digits s with
  | .error stop => .error stop
  | .ok (ds, rest) => if ds.head? = some 0x30 ∧ ds.length ≠ 1 then .error .malformed else .ok (ds, rest)

/-- The fraction of a number, empty if it has none. -/
def fraction (s : List UInt8) : Read (List UInt8) :=
  match s with
  | b :: rest =>
      if b = 0x2E then (digits rest).map fun r => (b :: r.1, r.2) else .ok ([], s)
  | [] => .ok ([], [])

/-- The exponent of a number, empty if it has none. -/
def exponent (s : List UInt8) : Read (List UInt8) :=
  match s with
  | b :: rest =>
      if b = 0x65 ∨ b = 0x45 then
        match rest with
        | sign :: after =>
            if sign = 0x2B ∨ sign = 0x2D then (digits after).map fun r => (b :: sign :: r.1, r.2)
            else (digits rest).map fun r => (b :: r.1, r.2)
        | [] => .error .truncated
      else .ok ([], s)
  | [] => .ok ([], [])

/-- The sign of a number, empty if it has none. -/
def sign (s : List UInt8) : List UInt8 × List UInt8 :=
  match s with
  | b :: rest => if b = 0x2D then ([b], rest) else ([], s)
  | [] => ([], [])

/-- A number as it is written. -/
def number (s : List UInt8) : Read (List UInt8) :=
  match wholePart (sign s).2 with
  | .error stop => .error stop
  | .ok (whole, rest) =>
      match fraction rest with
      | .error stop => .error stop
      | .ok (frac, rest) =>
          match exponent rest with
          | .error stop => .error stop
          | .ok (exp, rest) => .ok ((sign s).1 ++ whole ++ frac ++ exp, rest)

/-- The rest of a word whose first letter has been read. -/
def word : List UInt8 → List UInt8 → Except Stop (List UInt8)
  | [], rest => .ok rest
  | _ :: _, [] => .error .truncated
  | w :: ws, b :: rest => if w = b then word ws rest else .error .malformed

/-! ### Values -/

mutual

/-- A value, after white space.  The number bounds the calls that nest or follow each other. -/
def value : Nat → List UInt8 → Read Raw
  | 0, _ => .error .malformed
  | fuel + 1, s =>
      match skipBlank s with
      | [] => .error .truncated
      | b :: rest =>
          if b = 0x22 then (stringBody rest).map fun r => (.string r.1, r.2)
          else if b = 0x5B then
            match skipBlank rest with
            | [] => .error .truncated
            | c :: after =>
                if c = 0x5D then .ok (.array [], after)
                else (items fuel (c :: after)).map fun r => (.array r.1, r.2)
          else if b = 0x7B then
            match skipBlank rest with
            | [] => .error .truncated
            | c :: after =>
                if c = 0x7D then .ok (.object [], after)
                else (members fuel (c :: after)).map fun r => (.object r.1, r.2)
          else if b = 0x74 then (word [0x72, 0x75, 0x65] rest).map fun r => (.bool true, r)
          else if b = 0x66 then (word [0x61, 0x6C, 0x73, 0x65] rest).map fun r => (.bool false, r)
          else if b = 0x6E then (word [0x75, 0x6C, 0x6C] rest).map fun r => (.null, r)
          else if b = 0x2D ∨ isDigit b then (number (b :: rest)).map fun r => (.number r.1, r.2)
          else .error .malformed

/-- The elements of an array up to its end; there is one at least. -/
def items : Nat → List UInt8 → Read (List Raw)
  | 0, _ => .error .malformed
  | fuel + 1, s =>
      match value fuel s with
      | .error stop => .error stop
      | .ok (item, rest) =>
          match skipBlank rest with
          | [] => .error .truncated
          | b :: after =>
              if b = 0x5D then .ok ([item], after)
              else if b = 0x2C then (items fuel after).map fun r => (item :: r.1, r.2)
              else .error .malformed

/-- The members of an object up to its end; there is one at least. -/
def members : Nat → List UInt8 → Read (List (List UInt8 × Raw))
  | 0, _ => .error .malformed
  | fuel + 1, s =>
      match skipBlank s with
      | [] => .error .truncated
      | quote :: rest =>
          if quote ≠ 0x22 then .error .malformed
          else
            match stringBody rest with
            | .error stop => .error stop
            | .ok (key, rest) =>
                match skipBlank rest with
                | [] => .error .truncated
                | colon :: rest =>
                    if colon ≠ 0x3A then .error .malformed
                    else
                      match value fuel rest with
                      | .error stop => .error stop
                      | .ok (item, rest) =>
                          match skipBlank rest with
                          | [] => .error .truncated
                          | b :: after =>
                              if b = 0x7D then .ok ([(key, item)], after)
                              else if b = 0x2C then
                                (members fuel after).map fun r => ((key, item) :: r.1, r.2)
                              else .error .malformed

end

/-- Calls enough for every text of a length. -/
def enough (s : List UInt8) : Nat := 2 * s.length + 2

/-- Reads one value and nothing after it but white space. -/
def Raw.read (s : List UInt8) : Except Stop Raw :=
  match value (enough s) s with
  | .error stop => .error stop
  | .ok (raw, rest) => if skipBlank rest = [] then .ok raw else .error .malformed

end DockerClient.Json
