import DockerClient.Decimal.Places
import DockerClient.Program.Escape
import DockerClient.Program.Numeral

/-
**Formats**: texts with places for arguments.

A format is gone through as often as arguments are left.  Complaints about arguments do not end it.

* `Format.Directive` — a place for an argument: signs, width and precision;
* `Format.Printed` — what has been printed, the arguments that are left, and the complaints;
* `Format.run` — what a format prints with arguments.
-/

set_option relaxedAutoImplicit false
set_option autoImplicit false

namespace DockerClient.Format

/-! ### Directives -/

/-- A place for an argument.  It is not fit for printing if what it asks for cannot be counted. -/
structure Directive where
  alternate : Bool := false
  left : Bool := false
  plus : Bool := false
  space : Bool := false
  zero : Bool := false
  width : Nat := 0
  precision : Option Nat := none
  isFit : Bool := true

/-- The directive with a sign that stands before the width. -/
def Directive.withSign (d : Directive) (c : Char) : Directive :=
  match c with
  | '#' => { d with alternate := true }
  | '-' => { d with left := true }
  | '+' => { d with plus := true }
  | ' ' => { d with space := true }
  | '0' => { d with zero := true }
  | _ => d

/-- The greatest width and precision that can be asked for. -/
def greatestCount : Nat := 2147483647

/-- The greatest number of blanks or zeros that are printed for one directive: what stands beyond
them is not looked at. -/
def longestFilling : Nat := 1048576

/-- The directive with a width; a negative one asks for the left side. -/
def Directive.withWidth (d : Directive) (n : Int) : Directive :=
  { d with
    width := min n.natAbs longestFilling
    left := d.left || decide (n < 0)
    isFit := d.isFit && decide (n.natAbs ≤ greatestCount) }

/-- The directive with a precision; a negative one counts as none. -/
def Directive.withPrecision (d : Directive) (n : Int) : Directive :=
  { d with
    precision := if n < 0 then none else some (min n.toNat longestFilling)
    isFit := d.isFit && decide (n ≤ greatestCount) }

/-- A text with blanks up to the width. -/
def Directive.padded (d : Directive) (s : Bytes) : Bytes :=
  let blanks := List.replicate (d.width - s.length) ' '
  if d.left then s ++ blanks else blanks ++ s

/-- A number with its sign or mark in front, and blanks or zeros up to the width. -/
def Directive.paddedNumber (d : Directive) (zeros : Bool) (front body : Bytes) : Bytes :=
  if zeros && d.zero && !d.left then
    front ++ List.replicate (d.width - (front.length + body.length)) '0' ++ body
  else d.padded (front ++ body)

/-- A text, cut to the precision. -/
def Directive.text (d : Directive) (s : Bytes) : Bytes :=
  d.padded (match d.precision with | some n => s.take n | none => s)

/-- The digits of a number, as many as the precision asks for. -/
def Directive.digits (d : Directive) (base n : Nat) : Bytes :=
  let shown := if n = 0 ∧ d.precision = some 0 then [] else Numeral.inBase base n
  List.replicate (d.precision.getD 1 - shown.length) '0' ++ shown

/-- The sign of a number. -/
def Directive.sign (d : Directive) (negative : Bool) : Bytes :=
  if negative then ['-'] else if d.plus then ['+'] else if d.space then [' '] else []

/-- A number with a sign, in decimal. -/
def Directive.signed (d : Directive) (n : Int) : Bytes :=
  d.paddedNumber d.precision.isNone (d.sign (decide (n < 0))) (d.digits 10 n.natAbs)

/-- Letters in upper case. -/
def upper (s : Bytes) : Bytes := s.map Char.toUpper

/-- A number without a sign, in the base of a letter. -/
def Directive.unsigned (d : Directive) (letter : Char) (n : Nat) : Bytes :=
  let zeros := d.precision.isNone
  match letter with
  | 'o' =>
      let shown := d.digits 8 n
      d.paddedNumber zeros [] (if d.alternate && shown.head? != some '0' then '0' :: shown else shown)
  | 'x' => d.paddedNumber zeros (if d.alternate && n != 0 then ['0', 'x'] else []) (d.digits 16 n)
  | 'X' =>
      d.paddedNumber zeros (if d.alternate && n != 0 then ['0', 'X'] else []) (upper (d.digits 16 n))
  | _ => d.paddedNumber zeros [] (d.digits 10 n)

/-! ### Numbers with a point -/

/-- A number that is read from a text. -/
inductive Double where
  | finite (negative : Bool) (x : Decimal.Binary)
  | infinite (negative : Bool)
  | notNumber (negative : Bool)

/-- A number with a point, in the way of a letter. -/
def Directive.double (d : Directive) (letter : Char) (x : Double) : Bytes :=
  let isUpper := letter.isUpper
  let cased (s : Bytes) : Bytes := if isUpper then upper s else s
  let mark (lower : Char) : Char := if isUpper then lower.toUpper else lower
  match x with
  | .infinite negative => d.padded (d.sign negative ++ cased ['i', 'n', 'f'])
  | .notNumber negative => d.padded (d.sign negative ++ cased ['n', 'a', 'n'])
  | .finite negative x =>
      let places := d.precision.getD 6
      let sign := d.sign negative
      match letter.toLower with
      | 'f' => d.paddedNumber true sign (Decimal.plain places d.alternate x)
      | 'e' => d.paddedNumber true sign (Decimal.scientific places d.alternate (mark 'e') x)
      | 'g' => d.paddedNumber true sign (Decimal.general places d.alternate (mark 'e') x)
      | _ =>
          d.paddedNumber true (sign ++ ['0', mark 'x'])
            (cased (Decimal.hexadecimal d.precision d.alternate 'p' x))

/-- The digits of a base around a point: their value, how many stand after the point, how many there
are, and what follows. -/
def mantissa (base : Nat) (s : Bytes) : Nat × Nat × Nat × Bytes :=
  let (n, count, rest) := Numeral.digits base 0 0 s
  match rest with
  | '.' :: after =>
      let (m, places, rest') := Numeral.digits base n 0 after
      if count + places = 0 then (n, 0, 0, rest) else (m, places, count + places, rest')
  | _ => (n, 0, count, rest)

/-- The exponent after a mark, and what follows. -/
def exponent (mark : Char) (s : Bytes) : Int × Bytes :=
  match s with
  | c :: rest =>
      if c.toLower = mark then
        let (negative, body) :=
          match rest with
          | '-' :: t => (true, t)
          | '+' :: t => (false, t)
          | t => (false, t)
        let (n, count, after) := Numeral.digits 10 0 0 body
        if count = 0 then (0, s) else (if negative then -(n : Int) else n, after)
      else (0, s)
  | [] => (0, s)

/-- Whether a text begins with a word, in either case of letters; what follows it. -/
def word? (w s : Bytes) : Option Bytes :=
  if (s.take w.length).map Char.toLower = w then some (s.drop w.length) else none

/-- Exponents beyond this one make every number too great or too small. -/
def farthest : Int := 100000

/-- A number that is read from the beginning of a text, what follows it, and whether it is beyond
what can be written. -/
def double (s : Bytes) : Double × Bytes × Bool :=
  let trimmed := s.dropWhile Bytes.isSpace
  let (negative, body) :=
    match trimmed with
    | '-' :: t => (true, t)
    | '+' :: t => (false, t)
    | t => (false, t)
  let finish (n : Nat) (base : Nat) (power : Int) (rest : Bytes) : Double × Bytes × Bool :=
    let power := max (-farthest) (min farthest power)
    match Decimal.Binary.ofQuotient (n * Nat.pow base power.toNat) (Nat.pow base (-power).toNat) with
    | none => (.infinite negative, rest, true)
    | some x =>
        (.finite negative x, rest,
          n != 0 && decide (x.significand < Nat.pow 2 52) &&
            x.significand * Nat.pow base (-power).toNat
              != n * Nat.pow base power.toNat * Nat.pow 2 1074)
  match word? "infinity".toList body, word? "inf".toList body, word? "nan".toList body with
  | some rest, _, _ => (.infinite negative, rest, false)
  | none, some rest, _ => (.infinite negative, rest, false)
  | none, none, some rest => (.notNumber negative, rest, false)
  | none, none, none =>
      let hex : Option (Double × Bytes × Bool) :=
        match word? ['0', 'x'] body with
        | none => none
        | some digits =>
            let (n, places, count, rest) := mantissa 16 digits
            if count = 0 then none
            else
              let (e, rest) := exponent 'p' rest
              some (finish n 2 (e - 4 * places) rest)
      match hex with
      | some r => r
      | none =>
          let (n, places, count, rest) := mantissa 10 body
          if count = 0 then (.finite false ⟨0, 0, false⟩, s, false)
          else
            let (e, rest) := exponent 'e' rest
            finish n 10 (e - places) rest

/-! ### Arguments -/

/-- What has been printed, the last character first, the arguments that are left, and the complaints,
the last one first. -/
structure Printed where
  shown : Bytes := []
  left : List Bytes
  complaints : List Bytes := []

/-- How a format ends. -/
inductive Ending where
  | finished
  | stopped
  | failed (complaint : Bytes)

namespace Printed

/-- Adds a text. -/
def add (p : Printed) (s : Bytes) : Printed := { p with shown := s.reverseAux p.shown }

/-- The next argument. -/
def next (p : Printed) : Option Bytes × Printed :=
  match p.left with
  | a :: rest => (some a, { p with left := rest })
  | [] => (none, p)

/-- Adds a complaint about an argument that was not read to its end, or that is out of range. -/
def check (p : Printed) (argument rest : Bytes) (found exceeds : Bool) : Printed :=
  let complain (what : String) : Printed :=
    { p with complaints := (argument ++ ": ".toList ++ what.toList) :: p.complaints }
  if !rest.isEmpty then
    complain (if found then "not completely converted" else "expected numeric value")
  else if exceeds then complain "Numerical result out of range"
  else p

/-- The character after a quote that begins a number. -/
def quoted? (argument : Bytes) : Option Nat :=
  match argument with
  | '"' :: rest | '\x27' :: rest => some ((rest.head?.map Char.toNat).getD 0)
  | _ => none

/-- The next argument as a number. -/
def number (signed : Bool) (p : Printed) : Int × Printed :=
  match p.next with
  | (none, p) => (0, p)
  | (some argument, p) =>
      match quoted? argument with
      | some n => (n, p)
      | none =>
          let n := if signed then Numeral.signed 0 argument else Numeral.unsigned 0 argument
          (n.value, p.check argument n.rest n.found n.exceeds)

/-- The next argument as a number with a point. -/
def double (p : Printed) : Double × Printed :=
  match p.next with
  | (none, p) => (.finite false ⟨0, 0, false⟩, p)
  | (some argument, p) =>
      match quoted? argument with
      | some n => (.finite false ((Decimal.Binary.ofQuotient n 1).getD ⟨0, 0, false⟩), p)
      | none =>
          let (x, rest, exceeds) := Format.double argument
          (x, p.check argument rest (rest.length < argument.length) exceeds)

end Printed

/-! ### Formats -/

/-- Reads a width or a precision: digits, or an argument, which is brought to 32 bits. -/
def count (s : Bytes) (p : Printed) : Int × Bytes × Printed :=
  match s with
  | '*' :: rest =>
      let (n, p) := p.number true
      (n.bmod 4294967296, rest, p)
  | s =>
      let (n, _, rest) := Numeral.digits 10 0 0 s
      (n, rest, p)

/-- Prints what stands in the place of a directive; none if there is no such letter. -/
def Directive.print (d : Directive) (letter : Char) (p : Printed) : Option (Bool × Printed) :=
  match letter with
  | 'b' =>
      let (argument, p) := p.next
      let (text, stops) := Escape.text (argument.getD [])
      some (stops, p.add (d.text text))
  | 'c' =>
      let (argument, p) := p.next
      let c := (argument.bind List.head?).getD '\x00'
      some (false, p.add (d.padded [c]))
  | 's' =>
      let (argument, p) := p.next
      some (false, p.add (d.text (argument.getD [])))
  | 'd' | 'i' =>
      let (n, p) := p.number true
      some (false, p.add (d.signed n))
  | 'o' | 'u' | 'x' | 'X' =>
      let (n, p) := p.number false
      some (false, p.add (d.unsigned letter n.toNat))
  | 'a' | 'A' | 'e' | 'E' | 'f' | 'F' | 'g' | 'G' =>
      let (x, p) := p.double
      some (false, p.add (d.double letter x))
  | _ => none

/-- Goes through a format once. -/
def pass : Nat → Bytes → Printed → Ending × Printed
  | 0, _, p => (.finished, p)
  | _ + 1, [], p => (.finished, p)
  | fuel + 1, '\\' :: s, p =>
      let (c, rest) := Escape.character s
      pass fuel rest (p.add [c])
  | fuel + 1, '%' :: '%' :: s, p => pass fuel s (p.add ['%'])
  | fuel + 1, '%' :: s, p =>
      let isSign (c : Char) : Bool := ['#', '-', '+', ' ', '0'].contains c
      let signs := s.takeWhile isSign
      let d : Directive := signs.foldl Directive.withSign {}
      let (width, rest, p) := count (s.drop signs.length) p
      let d := d.withWidth width
      let (d, rest, p) :=
        match rest with
        | '.' :: after =>
            let (precision, rest, p) := count after p
            (d.withPrecision precision, rest, p)
        | rest => (d, rest, p)
      match rest with
      | [] => (.failed "missing format character".toList, p)
      | letter :: after =>
          match d.print letter p with
          | some (stops, q) =>
              if !d.isFit then (.failed "xvsnprintf failed".toList, { q with shown := p.shown })
              else if stops then (.stopped, q)
              else pass fuel after q
          | none =>
              let directive := '%' :: s.take (s.length - after.length)
              (.failed (directive ++ ": invalid directive".toList), p)
  | fuel + 1, c :: s, p => pass fuel s (p.add [c])

/-- Goes through a format until no argument is left, or none is taken. -/
def passes (format : Bytes) : Nat → Printed → Ending × Printed
  | 0, p => (.finished, p)
  | fuel + 1, p =>
      let before := p.left.length
      match pass (format.length + 1) format p with
      | (.finished, p) =>
          if p.left.isEmpty || p.left.length == before then (.finished, p) else passes format fuel p
      | r => r

/-- What a format prints with arguments. -/
def run (format : Bytes) (arguments : List Bytes) : Ending × Printed :=
  passes format (arguments.length + 1) { left := arguments }

end DockerClient.Format
