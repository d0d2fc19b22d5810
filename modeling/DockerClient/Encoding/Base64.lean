/-
**Base64** with the standard alphabet and canonical padding.

* `Base64.encode` — the padded text of a byte sequence;
* `Base64.decode` — the bytes of a text, or the first thing that is wrong with it;
* `Base64.Fault` — what can be wrong, with `Base64.Fault.message`.

A text is read as whole groups of four symbols and a last group of one to four, which alone may
hold padding.  The unused bits of the last symbol have to be zero, so that every byte sequence has
one text only.
-/

set_option relaxedAutoImplicit false
set_option autoImplicit false

namespace DockerClient.Base64

/-! ### Symbols -/

/-- The padding symbol `=`. -/
def pad : UInt8 := 61

/-- The symbol of a value below 64. -/
def symbol (n : Nat) : UInt8 :=
  if n < 26 then UInt8.ofNat (n + 65)
  else if n < 52 then UInt8.ofNat (n + 71)
  else if n < 62 then UInt8.ofNat (n - 4)
  else if n = 62 then 43
  else 47

/-- The value of a symbol. -/
def value? (b : UInt8) : Option Nat :=
  if 65 ≤ b ∧ b ≤ 90 then some (b.toNat - 65)
  else if 97 ≤ b ∧ b ≤ 122 then some (b.toNat - 71)
  else if 48 ≤ b ∧ b ≤ 57 then some (b.toNat + 4)
  else if b = 43 then some 62
  else if b = 47 then some 63
  else none

theorem value?_symbol {n : Nat} (h : n < 64) : value? (symbol n) = some n := by
  revert n; decide

theorem symbol_of_value? {b : UInt8} {n : Nat} (h : value? b = some n) : n < 64 ∧ symbol n = b := by
  revert n
  revert b
  have key : ∀ i : Fin 256, ∀ n, value? (UInt8.ofNat i.val) = some n →
      n < 64 ∧ symbol n = UInt8.ofNat i.val := by
    intro i n h
    have hall : ∀ i : Fin 256,
        ((value? (UInt8.ofNat i.val)).all fun n =>
          decide (n < 64 ∧ symbol n = UInt8.ofNat i.val)) = true := by decide +kernel
    have := hall i
    rw [h] at this
    simpa using this
  intro b n h
  have := key ⟨b.toNat, b.toNat_lt⟩ n
  simpa using this (by simpa using h)

/-! ### Encoding -/

/-- The padded text of a byte sequence: four symbols for every three bytes. -/
def encode : List UInt8 → List UInt8
  | [] => []
  | [a] => [symbol (a.toNat / 4), symbol (a.toNat % 4 * 16), pad, pad]
  | [a, b] =>
      [symbol (a.toNat / 4), symbol (a.toNat % 4 * 16 + b.toNat / 16), symbol (b.toNat % 16 * 4), pad]
  | a :: b :: c :: rest =>
      symbol (a.toNat / 4) :: symbol (a.toNat % 4 * 16 + b.toNat / 16)
        :: symbol (b.toNat % 16 * 4 + c.toNat / 64) :: symbol (c.toNat % 64) :: encode rest

/-! ### Decoding -/

/-- What can be wrong with a text; positions count bytes. -/
inductive Fault where
  | symbol (byte : UInt8) (offset : Nat)
  | length (symbols : Nat)
  | padding
  | trailingBits (byte : UInt8) (offset : Nat)
deriving DecidableEq, Repr

/-- The wording of a fault. -/
def Fault.message : Fault → String
  | .symbol byte offset =>
      "Invalid symbol " ++ toString byte.toNat ++ ", offset " ++ toString offset ++ "."
  | .length symbols => "Invalid input length: " ++ toString symbols
  | .padding => "Invalid padding"
  | .trailingBits byte offset =>
      "Invalid last symbol " ++ toString byte.toNat ++ ", offset " ++ toString offset ++ "."

/-- The values of a run of symbols that starts at `offset`. -/
def values (offset : Nat) : List UInt8 → Except Fault (List Nat)
  | [] => .ok []
  | b :: rest =>
      match value? b with
      | none => .error (.symbol b offset)
      | some n =>
          match values (offset + 1) rest with
          | .ok ns => .ok (n :: ns)
          | .error fault => .error fault

/-- The values and the number of padding symbols of the last group, which starts at `offset`.
The first number counts what has been read of it, the optional one is where its padding began. -/
def lastGroup (offset : Nat) : Nat → Option Nat → List UInt8 →
    Except Fault (List Nat × Nat)
  | _, _, [] => .ok ([], 0)
  | i, first, b :: rest =>
      if b = pad then
        if i < 2 then .error (.symbol b (offset + i))
        else
          match lastGroup offset (i + 1) (first.or (some i)) rest with
          | .ok (ns, pads) => .ok (ns, pads + 1)
          | .error fault => .error fault
      else
        match first with
        | some j => .error (.symbol pad (offset + j))
        | none =>
            match value? b with
            | none => .error (.symbol b (offset + i))
            | some n =>
                match lastGroup offset (i + 1) none rest with
                | .ok (ns, pads) => .ok (n :: ns, pads)
                | .error fault => .error fault

/-- The bytes of whole groups of four values. -/
def groupBytes : List Nat → List UInt8
  | w :: x :: y :: z :: rest =>
      UInt8.ofNat (w * 4 + x / 16) :: UInt8.ofNat (x % 16 * 16 + y / 4)
        :: UInt8.ofNat (y % 4 * 64 + z) :: groupBytes rest
  | _ => []

/-- The bytes of the last group, whose text starts at `offset`. -/
def lastBytes (offset : Nat) (text : List UInt8) : Except Fault (List UInt8) :=
  match lastGroup offset 0 none text with
  | .error fault => .error fault
  | .ok (ns, pads) =>
      if ns.length < 2 then .error (.length (offset + ns.length))
      else if ns.length + pads ≠ 4 then .error .padding
      else
        match ns with
        | [w, x] =>
            if x % 16 ≠ 0 then .error (.trailingBits (symbol x) (offset + 1))
            else .ok [UInt8.ofNat (w * 4 + x / 16)]
        | [w, x, y] =>
            if y % 4 ≠ 0 then .error (.trailingBits (symbol y) (offset + 2))
            else .ok [UInt8.ofNat (w * 4 + x / 16), UInt8.ofNat (x % 16 * 16 + y / 4)]
        | _ => .ok (groupBytes ns)

/-- Where the last group of a text starts. -/
def lastStart (text : List UInt8) : Nat :=
  (text.length - 1) / 4 * 4

/-- A single symbol after the whole groups can not be decoded; a byte there that is no symbol at
all is reported before anything else. -/
def loneByte (text : List UInt8) : Option Fault :=
  if text.length % 4 = 1 then
    match text.getLast? with
    | some b =>
        if b ≠ pad ∧ value? b = none then some (.symbol b (text.length - 1)) else none
    | none => none
  else none

/-- The bytes of a padded text. -/
def decode (text : List UInt8) : Except Fault (List UInt8) :=
  if text = [] then .ok []
  else
    match loneByte text with
    | some fault => .error fault
    | none =>
        match values 0 (text.take (lastStart text)) with
        | .error fault => .error fault
        | .ok ns =>
            match lastBytes (lastStart text) (text.drop (lastStart text)) with
            | .error fault => .error fault
            | .ok tail => .ok (groupBytes ns ++ tail)

end DockerClient.Base64
