import DockerClient.Program.Numeral

/-
**Whole-number expressions** of a shell.

Numbers have 64 bits and wrap around.  Names stand for variables, which an expression may set.

* `Arithmetic.Token`, `Arithmetic.tokenAt` — numbers, names and operators of an expression;
* `Arithmetic.Fault` — why an expression has no value;
* `Arithmetic.Calculation` — the rest of an expression, and the variables that it has set;
* `Arithmetic.value` — the value of an expression.
-/

set_option relaxedAutoImplicit false
set_option autoImplicit false

namespace DockerClient.Arithmetic

/-! ### Operators -/

/-- An operator with two operands. -/
inductive Op where
  | mul
  | div
  | rem
  | add
  | sub
  | shiftLeft
  | shiftRight
  | lt
  | le
  | gt
  | ge
  | eq
  | ne
  | and
  | xor
  | or
deriving DecidableEq, Repr

/-- How loosely an operator binds. -/
def Op.level : Op → Nat
  | .mul | .div | .rem => 0
  | .add | .sub => 1
  | .shiftLeft | .shiftRight => 2
  | .lt | .le | .gt | .ge => 3
  | .eq | .ne => 4
  | .and => 5
  | .xor => 6
  | .or => 7

/-- Looser than every operator. -/
def loosest : Nat := 8

/-- Why an expression has no value. -/
inductive Fault where
  | divisionByZero
  | expected (what : String)
  | badNumber (text : Bytes)
  | readOnly (name : Bytes)
  | trap
deriving DecidableEq, Repr

/-- One for a condition that holds, zero for another. -/
def truth (b : Bool) : Int := if b then 1 else 0

/-- A number as 64 bits without a sign. -/
def bits (n : Int) : Nat := (n % 18446744073709551616).toNat

/-- The value of an operator; division goes towards zero. -/
def Op.apply (op : Op) (a b : Int) : Except Fault Int :=
  let wrapped (n : Int) : Except Fault Int := .ok (Numeral.wrap n)
  match op with
  | .mul => wrapped (a * b)
  | .div =>
      if b = 0 then .error .divisionByZero
      else if a = Numeral.least ∧ b = -1 then .error .trap
      else wrapped (a.tdiv b)
  | .rem =>
      if b = 0 then .error .divisionByZero
      else if a = Numeral.least ∧ b = -1 then .error .trap
      else wrapped (a.tmod b)
  | .add => wrapped (a + b)
  | .sub => wrapped (a - b)
  | .shiftLeft => wrapped (a * (Nat.pow 2 (bits b % 64) : Nat))
  | .shiftRight => wrapped (a / (Nat.pow 2 (bits b % 64) : Nat))
  | .lt => .ok (truth (decide (a < b)))
  | .le => .ok (truth (decide (a ≤ b)))
  | .gt => .ok (truth (decide (b < a)))
  | .ge => .ok (truth (decide (b ≤ a)))
  | .eq => .ok (truth (a == b))
  | .ne => .ok (truth (a != b))
  | .and => wrapped (bits a &&& bits b : Nat)
  | .xor => wrapped (bits a ^^^ bits b : Nat)
  | .or => wrapped (bits a ||| bits b : Nat)

/-! ### Tokens -/

/-- A number, a name or a sign of an expression. -/
inductive Token where
  | done
  | number (n : Int)
  | name (s : Bytes)
  | op (o : Op)
  | assign (o : Option Op)
  | both
  | either
  | not
  | complement
  | opening
  | closing
  | question
  | colon
  | bad
deriving DecidableEq, Repr

/-- The first character of a name. -/
def startsName (c : Char) : Bool :=
  (decide ('a' ≤ c) && decide (c ≤ 'z')) || (decide ('A' ≤ c) && decide (c ≤ 'Z')) || c == '_'

/-- An operator, unless a sign of equality makes it set a variable. -/
def orAssign (o : Op) (s : Bytes) : Token × Bytes :=
  match s with
  | '=' :: s => (.assign (some o), s)
  | s => (.op o, s)

/-- The token that a text begins with, and what follows it. -/
def tokenAt (s : Bytes) : Token × Bytes :=
  match s.dropWhile fun c => c == ' ' || c == '\t' || c == '\n' with
  | [] => (.done, [])
  | c :: s =>
      if '0' ≤ c ∧ c ≤ '9' then
        let n := Numeral.signed 0 (c :: s)
        (.number n.value, n.rest)
      else if startsName c then
        let name := (c :: s).takeWhile fun d => startsName d || (decide ('0' ≤ d) && decide (d ≤ '9'))
        (.name name, (c :: s).drop name.length)
      else
        match c, s with
        | '=', '=' :: s => (.op .eq, s)
        | '=', s => (.assign none, s)
        | '>', '=' :: s => (.op .ge, s)
        | '>', '>' :: s => orAssign .shiftRight s
        | '>', s => (.op .gt, s)
        | '<', '=' :: s => (.op .le, s)
        | '<', '<' :: s => orAssign .shiftLeft s
        | '<', s => (.op .lt, s)
        | '|', '|' :: s => (.either, s)
        | '|', s => orAssign .or s
        | '&', '&' :: s => (.both, s)
        | '&', s => orAssign .and s
        | '!', '=' :: s => (.op .ne, s)
        | '!', s => (.not, s)
        | '(', s => (.opening, s)
        | ')', s => (.closing, s)
        | '*', s => orAssign .mul s
        | '/', s => orAssign .div s
        | '%', s => orAssign .rem s
        | '+', s => orAssign .add s
        | '-', s => orAssign .sub s
        | '~', s => (.complement, s)
        | '^', s => orAssign .xor s
        | '?', s => (.question, s)
        | ':', s => (.colon, s)
        | _, _ => (.bad, c :: s)

/-! ### Calculating -/

/-- The rest of an expression after its present token, and the variables that it has set. -/
structure Calculation where
  token : Token
  rest : Bytes
  changes : List (Bytes × Int) := []

/-- Steps of a calculation. -/
abbrev Calc := EStateM Fault Calculation

/-- What variables are: their values, and whether they may be set. -/
structure Variables where
  value? : Bytes → Option Bytes
  isReadOnly : Bytes → Bool

/-- The present token. -/
def peek : Calc Token := do pure (← get).token

/-- Goes on to the next token. -/
def advance : Calc Unit := modify fun c =>
  let (token, rest) := tokenAt c.rest
  { c with token := token, rest := rest }

/-- The number that a variable holds. -/
def numberOf (vars : Variables) (name : Bytes) : Calc Int := do
  match (← get).changes.lookup name with
  | some n => pure n
  | none =>
      let text := (vars.value? name).getD []
      match Numeral.whole? 0 text with
      | some n => pure n
      | none => throw (.badNumber text)

/-- Sets a variable. -/
def assign (vars : Variables) (name : Bytes) (n : Int) : Calc Unit :=
  if vars.isReadOnly name then throw (.readOnly name)
  else modify fun c => { c with changes := (name, n) :: c.changes }

/-- The value of an operator. -/
def apply (o : Op) (a b : Int) : Calc Int :=
  match o.apply a b with
  | .ok n => pure n
  | .error e => throw e

mutual

/-- An operand with the signs before it.  Nothing is looked up or set where values are not wanted. -/
def operand (vars : Variables) (idle : Bool) : Nat → Calc Int
  | 0 => throw (.expected "primary")
  | fuel + 1 => do
      match ← peek with
      | .opening =>
          advance
          let n ← assignment vars idle fuel
          if (← peek) ≠ .closing then throw (.expected "')'")
          advance
          pure n
      | .number n =>
          advance
          pure n
      | .name name =>
          advance
          if idle then pure 0 else numberOf vars name
      | .op .add =>
          advance
          operand vars idle fuel
      | .op .sub =>
          advance
          pure (Numeral.wrap (-(← operand vars idle fuel)))
      | .not =>
          advance
          pure (truth ((← operand vars idle fuel) == 0))
      | .complement =>
          advance
          pure (-(← operand vars idle fuel) - 1)
      | _ => throw (.expected "primary")

/-- Operands joined by operators, beginning with an operator after the first operand; stops at one
that binds as loosely as the level. -/
def joined (vars : Variables) (idle : Bool) : Nat → Int → Op → Nat → Calc Int
  | 0, _, _, _ => throw (.expected "primary")
  | fuel + 1, a, o, level => do
      advance
      let b ← operand vars idle fuel
      let b ←
        match ← peek with
        | .op tighter => if tighter.level < o.level then joined vars idle fuel b tighter o.level else pure b
        | _ => pure b
      let n ← if idle then pure b else apply o a b
      match ← peek with
      | .op next => if level ≤ next.level then pure n else joined vars idle fuel n next level
      | _ => pure n

/-- Operands joined by operators. -/
def operation (vars : Variables) (idle : Bool) : Nat → Calc Int
  | 0 => throw (.expected "primary")
  | fuel + 1 => do
      let a ← operand vars idle fuel
      match ← peek with
      | .op o => joined vars idle fuel a o loosest
      | _ => pure a

/-- Conditions that must all hold. -/
def conjunction (vars : Variables) (idle : Bool) : Nat → Calc Int
  | 0 => throw (.expected "primary")
  | fuel + 1 => do
      let a ← operation vars idle fuel
      if (← peek) = .both then
        advance
        let b ← conjunction vars (idle || a == 0) fuel
        pure (truth (a != 0 && b != 0))
      else pure a

/-- Conditions of which one must hold. -/
def disjunction (vars : Variables) (idle : Bool) : Nat → Calc Int
  | 0 => throw (.expected "primary")
  | fuel + 1 => do
      let a ← conjunction vars idle fuel
      if (← peek) = .either then
        advance
        let b ← disjunction vars (idle || a != 0) fuel
        pure (truth (a != 0 || b != 0))
      else pure a

/-- A condition with a value for each case. -/
def conditional (vars : Variables) (idle : Bool) : Nat → Calc Int
  | 0 => throw (.expected "primary")
  | fuel + 1 => do
      let a ← disjunction vars idle fuel
      if (← peek) = .question then
        advance
        let b ← assignment vars (idle || a == 0) fuel
        if (← peek) ≠ .colon then throw (.expected "':'")
        advance
        let c ← conditional vars (idle || a != 0) fuel
        pure (if a != 0 then b else c)
      else pure a

/-- An expression that may set a variable. -/
def assignment (vars : Variables) (idle : Bool) : Nat → Calc Int
  | 0 => throw (.expected "primary")
  | fuel + 1 => do
      let here ← get
      match here.token, tokenAt here.rest with
      | .name name, (.assign o, rest) =>
          set { here with token := .assign o, rest := rest }
          advance
          let n ← assignment vars idle fuel
          if idle then pure n
          else
            let n ←
              match o with
              | none => pure n
              | some o => do
                  let old ← numberOf vars name
                  apply o old n
            assign vars name n
            pure n
      | _, _ => conditional vars idle fuel

end

/-- The value of an expression, and the variables that it has set, the last one first. -/
def value (vars : Variables) (text : Bytes) : Except Fault Int × List (Bytes × Int) :=
  let (token, rest) := tokenAt text
  let whole : Calc Int := do
    let n ← assignment vars false (2 * text.length + 20)
    if (← peek) ≠ .done then throw (.expected "EOF")
    pure n
  match whole.run ⟨token, rest, []⟩ with
  | .ok n c => (.ok n, c.changes)
  | .error e c => (.error e, c.changes)

end DockerClient.Arithmetic
