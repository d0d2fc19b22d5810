import DockerClient.Program.Process

/-
**Conditions** that are written as arguments.

* `Check.Operator`, `Check.operator?` — the operators by their texts;
* `Check.Fault` — why arguments are no condition;
* `Check.holds` — whether a condition holds.

Every part of a condition is looked at, also one that can not change the outcome.
-/

set_option relaxedAutoImplicit false
set_option autoImplicit false

namespace DockerClient.Check

/-! ### Operators -/

/-- A question about a file or a text. -/
inductive Question where
  | present
  | regular
  | directory
  | device
  | socket
  | nonempty
  | runnable
  | never
  | terminal
  | zero
  | nonzero
deriving DecidableEq, Repr

/-- A comparison of two texts, numbers or files. -/
inductive Comparison where
  | same
  | different
  | before
  | after
  | eq
  | ne
  | lt
  | le
  | gt
  | ge
  | newer
  | older
  | sameFile
deriving DecidableEq, Repr

/-- An operator of a condition. -/
inductive Operator where
  | ask (q : Question)
  | compare (c : Comparison)
  | not
  | and
  | or
  | opening
  | closing
deriving DecidableEq, Repr

/-- The operators by their texts. -/
def table : List (String × Operator) :=
  [("-r", .ask .present), ("-w", .ask .present), ("-x", .ask .runnable), ("-e", .ask .present),
   ("-f", .ask .regular), ("-d", .ask .directory), ("-c", .ask .device), ("-b", .ask .never),
   ("-p", .ask .never), ("-u", .ask .never), ("-g", .ask .never), ("-k", .ask .never),
   ("-s", .ask .nonempty), ("-t", .ask .terminal), ("-z", .ask .zero), ("-n", .ask .nonzero),
   ("-h", .ask .never), ("-O", .ask .present), ("-G", .ask .present), ("-L", .ask .never),
   ("-S", .ask .socket), ("=", .compare .same), ("!=", .compare .different),
   ("<", .compare .before), (">", .compare .after), ("-eq", .compare .eq), ("-ne", .compare .ne),
   ("-ge", .compare .ge), ("-gt", .compare .gt), ("-le", .compare .le), ("-lt", .compare .lt),
   ("-nt", .compare .newer), ("-ot", .compare .older), ("-ef", .compare .sameFile),
   ("!", .not), ("-a", .and), ("-o", .or), ("(", .opening), (")", .closing)]

/-- The operator that a text is. -/
def operator? (s : Bytes) : Option Operator := (table.find? fun e => e.1.toList == s).map (·.2)

/-- Why arguments are no condition. -/
inductive Fault where
  | unexpected (argument : Bytes)
  | missing (operator : Bytes)
  | unclosed
  | badNumber (s : Bytes)
deriving DecidableEq, Repr

/-- What is said of a fault. -/
def Fault.text : Fault → Bytes
  | .unexpected [] => "unexpected operator".toList
  | .unexpected argument => argument ++ ": unexpected operator".toList
  | .missing operator => operator ++ ": argument expected".toList
  | .unclosed => "closing paren expected".toList
  | .badNumber s => "Illegal number: ".toList ++ s

/-! ### Words -/

/-- What the first of some arguments is: an operator, an operand, or nothing. -/
inductive Word where
  | operator (o : Operator)
  | operand
  | done
deriving DecidableEq, Repr

/-- Whether a text is a comparison. -/
def isComparison (s : Bytes) : Bool :=
  match operator? s with
  | some (.compare _) => true
  | _ => false

/-- What the first of some arguments is.  A question is an operand if nothing follows that it could
be about, or if a comparison follows. -/
def wordOf : List Bytes → Word
  | [] => .done
  | s :: rest =>
      match operator? s with
      | none => .operand
      | some (.ask q) =>
          match rest with
          | [] => .operand
          | [_] => .operator (.ask q)
          | t :: _ :: _ => if isComparison t then .operand else .operator (.ask q)
      | some .opening => if rest.isEmpty then .operand else .operator .opening
      | some o => .operator o

/-! ### Answers -/

/-- A number that is compared. -/
def number (s : Bytes) : Except Fault Int :=
  match Numeral.integer? s with
  | some n => .ok n
  | none => .error (.badNumber s)

/-- The answer to a question. -/
def answer (p : Process) (q : Question) (s : Bytes) : Except Fault Bool :=
  let node := p.find s
  match q, node with
  | .zero, _ => .ok s.isEmpty
  | .nonzero, _ => .ok !s.isEmpty
  | .terminal, _ => (number s).map fun _ => false
  | .never, _ => .ok false
  | _, .error _ => .ok false
  | .present, .ok _ => .ok true
  | .regular, .ok (.file _ _) | .regular, .ok (.tool _) => .ok true
  | .directory, .ok (.dir _) => .ok true
  | .device, .ok (.device _) => .ok true
  | .socket, .ok .socket => .ok true
  | .nonempty, .ok (.file content _) => .ok !content.isEmpty
  | .nonempty, .ok (.tool _) | .nonempty, .ok (.dir _) => .ok true
  | .runnable, .ok (.file _ executable) => .ok executable
  | .runnable, .ok (.tool _) | .runnable, .ok (.dir _) => .ok true
  | _, .ok _ => .ok false

/-- Whether two texts, numbers or files compare as asked. -/
def compares (p : Process) (c : Comparison) (a b : Bytes) : Except Fault Bool := do
  let numbers (f : Int → Int → Bool) : Except Fault Bool := do
    let m ← number a
    let n ← number b
    pure (f m n)
  match c with
  | .same => pure (a == b)
  | .different => pure (a != b)
  | .before => pure (Bytes.le a b && a != b)
  | .after => pure (Bytes.le b a && a != b)
  | .eq => numbers fun m n => m == n
  | .ne => numbers fun m n => m != n
  | .lt => numbers fun m n => decide (m < n)
  | .le => numbers fun m n => decide (m ≤ n)
  | .gt => numbers fun m n => decide (n < m)
  | .ge => numbers fun m n => decide (n ≤ m)
  | .newer | .older => pure false
  | .sameFile =>
      match p.kernel.place p.directory a, p.kernel.place p.directory b with
      | .ok (m, some _), .ok (n, some _) => pure (m == n)
      | _, _ => pure false

/-! ### Conditions -/

mutual

/-- Alternatives from the first argument on, which is `w`; what is left begins with the last argument
that was looked at. -/
def alternatives (p : Process) : Nat → Bool → Word → List Bytes → Except Fault (Bool × List Bytes)
  | 0, found, _, s => .ok (found, s)
  | fuel + 1, found, w, s => do
      let (b, s) ← conditions p fuel true w s
      if wordOf (s.drop 1) = .operator .or then
        alternatives p fuel (found || b) (wordOf (s.drop 2)) (s.drop 2)
      else pure (found || b, s)

/-- Conditions that hold together. -/
def conditions (p : Process) : Nat → Bool → Word → List Bytes → Except Fault (Bool × List Bytes)
  | 0, all, _, s => .ok (all, s)
  | fuel + 1, all, w, s => do
      let (b, s) ← negation p fuel w s
      if wordOf (s.drop 1) = .operator .and then
        conditions p fuel (all && b) (wordOf (s.drop 2)) (s.drop 2)
      else pure (all && b, s)

/-- A condition that may be turned around. -/
def negation (p : Process) : Nat → Word → List Bytes → Except Fault (Bool × List Bytes)
  | 0, _, s => .ok (false, s)
  | fuel + 1, w, s => do
      if w = .operator .not then
        let next := wordOf (s.drop 1)
        let (b, s) ← negation p fuel next (if next = .done then s else s.drop 1)
        pure (!b, s)
      else primary p fuel w s

/-- A single condition, or some in parentheses. -/
def primary (p : Process) : Nat → Word → List Bytes → Except Fault (Bool × List Bytes)
  | 0, _, s => .ok (false, s)
  | fuel + 1, w, s => do
      match w with
      | .done => pure (false, s)
      | .operator .opening =>
          let s := s.drop 1
          let next := wordOf s
          if next = .operator .closing then pure (false, s)
          else
            let (b, s) ← alternatives p fuel false next s
            let s := s.drop 1
            if wordOf s = .operator .closing then pure (b, s) else throw .unclosed
      | .operator (.ask q) =>
          match s with
          | _ :: argument :: rest => do
              let b ← answer p q argument
              pure (b, argument :: rest)
          | s => throw (.missing (s.head?.getD []))
      | _ =>
          match s with
          | a :: op :: rest =>
              match wordOf (op :: rest) with
              | .operator (.compare c) =>
                  match rest with
                  | b :: _ => do
                      let found ← compares p c a b
                      pure (found, rest)
                  | [] => throw (.missing op)
              | _ => pure (!a.isEmpty, s)
          | s => pure (!(s.head?.getD []).isEmpty, s)

end

/-- Whether a condition holds, its first argument being `w`.  All arguments must be part of it. -/
def holdsFrom (p : Process) (w : Word) (s : List Bytes) : Except Fault Bool := do
  let (b, left) ← alternatives p (4 * s.length + 8) false w s
  match left with
  | a :: _ :: _ => throw (.unexpected a)
  | _ => pure b

/-- Whether a condition holds.  How many arguments there are decides how the first ones are read. -/
def holds (p : Process) (s : List Bytes) : Except Fault Bool :=
  match s with
  | [] => .ok false
  | [a, op, b] =>
      if isComparison op then holdsFrom p .operand s
      else if a = ['('] ∧ b = [')'] then holdsFrom p (wordOf [op]) [op]
      else if a = ['!'] then (holdsFrom p (wordOf [op, b]) [op, b]).map (!·)
      else holdsFrom p (wordOf s) s
  | [a, b, c, d] =>
      if a = ['('] ∧ d = [')'] then holdsFrom p (wordOf [b, c]) [b, c]
      else if a = ['!'] then
        if isComparison c then (holdsFrom p .operand [b, c, d]).map (!·)
        else if b = ['('] ∧ d = [')'] then (holdsFrom p (wordOf [c]) [c]).map (!·)
        else if b = ['!'] then (holdsFrom p (wordOf [c, d]) [c, d]).map (!·)
        else (holdsFrom p (wordOf [b, c, d]) [b, c, d]).map (!·)
      else holdsFrom p (wordOf s) s
  | s => holdsFrom p (wordOf s) s

end DockerClient.Check
