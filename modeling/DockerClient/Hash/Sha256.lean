/-
**SHA-256.**

* `Sha256.digest` — the digest of a byte sequence, 32 bytes by its type;
* `Sha256.padded` — the padded message, a whole number of blocks;
* `Sha256.schedule`, `Sha256.compress` — the work on one block.
-/

set_option relaxedAutoImplicit false
set_option autoImplicit false

namespace DockerClient.Sha256

/-- The eight words that are carried from block to block. -/
abbrev State := Vector UInt32 8

/-- The words before the first block. -/
def initial : State :=
  #v[0x6a09e667, 0xbb67ae85, 0x3c6ef372, 0xa54ff53a, 0x510e527f, 0x9b05688c, 0x1f83d9ab, 0x5be0cd19]

/-- The constant of every round. -/
def roundConstants : List UInt32 :=
  [0x428a2f98, 0x71374491, 0xb5c0fbcf, 0xe9b5dba5, 0x3956c25b, 0x59f111f1, 0x923f82a4, 0xab1c5ed5,
   0xd807aa98, 0x12835b01, 0x243185be, 0x550c7dc3, 0x72be5d74, 0x80deb1fe, 0x9bdc06a7, 0xc19bf174,
   0xe49b69c1, 0xefbe4786, 0x0fc19dc6, 0x240ca1cc, 0x2de92c6f, 0x4a7484aa, 0x5cb0a9dc, 0x76f988da,
   0x983e5152, 0xa831c66d, 0xb00327c8, 0xbf597fc7, 0xc6e00bf3, 0xd5a79147, 0x06ca6351, 0x14292967,
   0x27b70a85, 0x2e1b2138, 0x4d2c6dfc, 0x53380d13, 0x650a7354, 0x766a0abb, 0x81c2c92e, 0x92722c85,
   0xa2bfe8a1, 0xa81a664b, 0xc24b8b70, 0xc76c51a3, 0xd192e819, 0xd6990624, 0xf40e3585, 0x106aa070,
   0x19a4c116, 0x1e376c08, 0x2748774c, 0x34b0bcb5, 0x391c0cb3, 0x4ed8aa4a, 0x5b9cca4f, 0x682e6ff3,
   0x748f82ee, 0x78a5636f, 0x84c87814, 0x8cc70208, 0x90befffa, 0xa4506ceb, 0xbef9a3f7, 0xc67178f2]

/-- Rotation to the right by `n` places. -/
def rotate (x : UInt32) (n : UInt32) : UInt32 :=
  (x >>> n) ||| (x <<< (32 - n))

/-! ### The message -/

/-- The message, a one bit, zeros, and the message's length in bits. -/
def padded (message : List UInt8) : List UInt8 :=
  message ++ 0x80 :: List.replicate ((119 - message.length % 64) % 64) 0
    ++ (List.range 8).map fun i => UInt8.ofNat (message.length * 8 / Nat.pow 2 (8 * (7 - i)))

/-- The word of four bytes, the highest first. -/
def word (a b c d : UInt8) : UInt32 :=
  (a.toUInt32 <<< 24) ||| (b.toUInt32 <<< 16) ||| (c.toUInt32 <<< 8) ||| d.toUInt32

/-- The words of a byte sequence. -/
def words : List UInt8 → List UInt32
  | a :: b :: c :: d :: rest => word a b c d :: words rest
  | _ => []

/-- The blocks of sixteen words. -/
def blocks : Nat → List UInt32 → List (List UInt32)
  | 0, _ => []
  | n + 1, ws => ws.take 16 :: blocks n (ws.drop 16)

/-! ### One block -/

/-- Continues a schedule, given latest word first, by `n` words. -/
def extend : Nat → List UInt32 → List UInt32
  | 0, ws => ws
  | n + 1, ws =>
      let near := ws.getD 1 0
      let far := ws.getD 14 0
      let next :=
        (rotate near 17 ^^^ rotate near 19 ^^^ (near >>> 10)) + ws.getD 6 0
          + (rotate far 7 ^^^ rotate far 18 ^^^ (far >>> 3)) + ws.getD 15 0
      extend n (next :: ws)

/-- The 64 words that a block spreads to. -/
def schedule (block : List UInt32) : List UInt32 :=
  (extend 48 block.reverse).reverse

/-- One round, with its constant and its word of the schedule. -/
def round (s : State) (k w : UInt32) : State :=
  let a := s[0]; let b := s[1]; let c := s[2]; let d := s[3]
  let e := s[4]; let f := s[5]; let g := s[6]; let h := s[7]
  let t := h + (rotate e 6 ^^^ rotate e 11 ^^^ rotate e 25) + ((e &&& f) ^^^ (~~~e &&& g)) + k + w
  let u := (rotate a 2 ^^^ rotate a 13 ^^^ rotate a 22) + ((a &&& b) ^^^ (a &&& c) ^^^ (b &&& c))
  #v[t + u, a, b, c, d + t, e, f, g]

/-- The words after a block. -/
def compress (s : State) (block : List UInt32) : State :=
  let mixed := (roundConstants.zip (schedule block)).foldl (fun acc kw => round acc kw.1 kw.2) s
  Vector.zipWith (· + ·) s mixed

/-! ### The digest -/

/-- The words after a whole message. -/
def final (message : List UInt8) : State :=
  let whole := padded message
  (blocks (whole.length / 64) (words whole)).foldl compress initial

/-- The digest of a message: its final words, the highest byte of each first. -/
def digest (message : List UInt8) : Vector UInt8 32 :=
  let s := final message
  Vector.ofFn fun i : Fin 32 => (s[i.val / 4] >>> UInt32.ofNat (8 * (3 - i.val % 4))).toUInt8

end DockerClient.Sha256
