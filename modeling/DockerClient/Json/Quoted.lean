import DockerClient.Json.Syntax
import DockerClient.Text.Utf8

/-
**JSON strings.**

* `Json.unescape` — the bytes that the text between two quotes stands for;
* `Json.escape` — a text between quotes that stands for given bytes;
* `Json.textOf?` — the string of the text between two quotes: its escapes mean something, no half of
  a surrogate pair stands alone, and its bytes are well formed.
-/

set_option relaxedAutoImplicit false
set_option autoImplicit false

namespace DockerClient.Json

/-! ### Reading -/

/-- The value of four hexadecimal digits. -/
def hex4? (w x y z : UInt8) : Option Nat :=
  match hexValue? w, hexValue? x, hexValue? y, hexValue? z with
  | some a, some b, some c, some d => some (((a * 16 + b) * 16 + c) * 16 + d)
  | _, _, _, _ => none

/-- The first halves of surrogate pairs. -/
def isHigh (n : Nat) : Bool := decide (0xD800 ≤ n) && decide (n ≤ 0xDBFF)

/-- The second halves of surrogate pairs. -/
def isLow (n : Nat) : Bool := decide (0xDC00 ≤ n) && decide (n ≤ 0xDFFF)

/-- The bytes of the character with a code point. -/
def charBytes (n : Nat) : List UInt8 := String.utf8EncodeChar (Char.ofNat n)

/-- The bytes that a text between quotes stands for. -/
def unescape : List UInt8 → Option (List UInt8)
  | [] => some []
  | b :: rest =>
      if b = 0x5C then
        match rest with
        | [] => none
        | e :: rest =>
            match shortEscape? e with
            | some c => (unescape rest).map (c :: ·)
            | none =>
                match rest with
                | w :: x :: y :: z :: rest =>
                    match hex4? w x y z with
                    | none => none
                    | some high =>
                        if isLow high then none
                        else if isHigh high then
                          match rest with
                          | s :: u :: w :: x :: y :: z :: rest =>
                              match hex4? w x y z with
                              | none => none
                              | some low =>
                                  if s = 0x5C ∧ u = 0x75 ∧ isLow low then
                                    (unescape rest).map
                                      (charBytes (0x10000 + (high - 0xD800) * 0x400 + (low - 0xDC00))
                                        ++ ·)
                                  else none
                          | _ => none
                        else (unescape rest).map (charBytes high ++ ·)
                | _ => none
      else (unescape rest).map (b :: ·)

/-- The string of the text between two quotes. -/
def textOf? (body : List UInt8) : Option String :=
  match unescape body with
  | none => none
  | some bytes => Text.decode? bytes

/-! ### Writing -/

/-- A hexadecimal digit. -/
def hexByte (n : Nat) : UInt8 :=
  if n < 10 then UInt8.ofNat (0x30 + n) else UInt8.ofNat (0x57 + n)

/-- The text that stands for one byte. -/
def escapeByte (b : UInt8) : List UInt8 :=
  if b = 0x22 then [0x5C, 0x22]
  else if b = 0x5C then [0x5C, 0x5C]
  else if b = 0x08 then [0x5C, 0x62]
  else if b = 0x09 then [0x5C, 0x74]
  else if b = 0x0A then [0x5C, 0x6E]
  else if b = 0x0C then [0x5C, 0x66]
  else if b = 0x0D then [0x5C, 0x72]
  else if b < 0x20 then
    [0x5C, 0x75, 0x30, 0x30, hexByte (b.toNat / 16), hexByte (b.toNat % 16)]
  else [b]

/-- The text that stands for the given bytes between quotes. -/
def escape (bytes : List UInt8) : List UInt8 := bytes.flatMap escapeByte

/-- A string in quotes. -/
def quoted (s : String) : List UInt8 :=
  0x22 :: escape (Text.encode s) ++ [0x22]

end DockerClient.Json
