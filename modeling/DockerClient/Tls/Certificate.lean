import DockerClient.Tls.Der

/-
**Certificates and private keys**, as far as a client looks into them before it connects.

* `PublicKey` — the algorithm and the bits of a public key;
* `Certificate.publicKey?` — the key that a certificate is about, none if it is no certificate;
* `PrivateKey.bareKey?`, `PrivateKey.wrappedKey?` — the public part of a private key on one of the curves that are known.
-/

set_option relaxedAutoImplicit false
set_option autoImplicit false

namespace DockerClient

/-- The algorithm and the bits of a public key. -/
structure PublicKey where
  algorithm : List UInt8
  key : List UInt8
deriving DecidableEq, Repr

/-! ### Certificates -/

namespace Certificate

/-- The extensions that a critical one has to be among. -/
def knownExtensions : List (List UInt8) :=
  [[0x55, 0x1D, 15], [0x55, 0x1D, 17], [0x55, 0x1D, 19], [0x55, 0x1D, 30], [0x55, 0x1D, 31],
   [0x55, 0x1D, 37]]

/-- Whether an extension can be used: it has the right form, and is known if it is critical. -/
def isUsable (extension : Der.Element) : Bool :=
  if extension.tag = Der.sequence then
    match Der.elements? extension.content with
    | some [name, value] => name.tag == Der.identifier && value.tag == Der.octets
    | some [name, critical, value] =>
        name.tag == Der.identifier && critical.tag == Der.boolean && value.tag == Der.octets
          && critical.content == [0xFF] && knownExtensions.contains name.content
    | _ => false
  else false

/-- Whether what follows the key in a certificate can be used. -/
def areUsable : List Der.Element → Bool
  | [] => true
  | [e] =>
      if e.tag = Der.part 3 then
        match (Der.only? Der.sequence e.content).bind Der.elements? with
        | some extensions => extensions.all isUsable
        | none => false
      else false
  | _ => false

/-- The public key in its own element. -/
def keyOf (e : Der.Element) : Option PublicKey :=
  if e.tag = Der.sequence then
    match Der.elements? e.content with
    | some [algorithm, key] =>
        if algorithm.tag = Der.sequence ∧ key.tag = Der.bits then
          some ⟨algorithm.content, key.content⟩
        else none
    | _ => none
  else none

/-- The key in the signed part of a certificate of the third version, whose signature has the given
algorithm. -/
def signedKey? (algorithm : List UInt8) : List Der.Element → Option PublicKey
  | version :: serial :: signature :: issuer :: validity :: subject :: key :: rest =>
      if version = ⟨Der.part 0, [Der.integer, 1, 2]⟩ ∧ serial.tag = Der.integer
          ∧ signature = ⟨Der.sequence, algorithm⟩
          ∧ [issuer, validity, subject].all (·.tag == Der.sequence) ∧ areUsable rest then
        keyOf key
      else none
  | _ => none

/-- The key that a certificate is about. -/
def publicKey? (der : List UInt8) : Option PublicKey :=
  match (Der.only? Der.sequence der).bind Der.elements? with
  | some [signed, algorithm, signature] =>
      if signed.tag = Der.sequence ∧ algorithm.tag = Der.sequence ∧ signature.tag = Der.bits then
        (Der.elements? signed.content).bind (signedKey? algorithm.content)
      else none
  | _ => none

end Certificate

/-! ### Private keys -/

namespace PrivateKey

/-- The name of keys on curves. -/
def curveKeys : List UInt8 := [0x2A, 0x86, 0x48, 0xCE, 0x3D, 0x02, 0x01]

/-- The names of the known curves, with the width of their numbers. -/
def curves : List (List UInt8 × Nat) :=
  [([0x2A, 0x86, 0x48, 0xCE, 0x3D, 0x03, 0x01, 0x07], 32), ([0x2B, 0x81, 0x04, 0x00, 0x22], 48)]

/-- The elements of an algorithm on a curve. -/
def algorithm (curve : List UInt8) : List UInt8 :=
  Der.identifier :: UInt8.ofNat curveKeys.length :: curveKeys
    ++ Der.identifier :: UInt8.ofNat curve.length :: curve

/-- The bits of the public part of a key on a curve, if its numbers have the given width. -/
def publicBits? (curve : List UInt8) (width : Nat) (key : List UInt8) : Option (List UInt8) :=
  match (Der.only? Der.sequence key).bind Der.elements? with
  | some (version :: secret :: rest) =>
      let public_ : Option Der.Element :=
        match rest with
        | [p] => some p
        | [c, p] =>
            if c = ⟨Der.part 0, Der.identifier :: UInt8.ofNat curve.length :: curve⟩ then some p
            else none
        | _ => none
      if version = ⟨Der.integer, [1]⟩ ∧ secret.tag = Der.octets ∧ secret.content.length = width then
        match public_ with
        | some p =>
            if p.tag = Der.part 1 then
              (Der.only? Der.bits p.content).filter fun b => b.length == 2 * width + 2
            else none
        | none => none
      else none
  | _ => none

/-- The public part of a key that is written without its algorithm. -/
def bareKey? (key : List UInt8) : Option PublicKey :=
  curves.findSome? fun c => (publicBits? c.1 c.2 key).map fun bits => ⟨algorithm c.1, bits⟩

/-- The public part of a key that is written with its algorithm. -/
def wrappedKey? (der : List UInt8) : Option PublicKey :=
  match (Der.only? Der.sequence der).bind Der.elements? with
  | some [version, kind, key] =>
      if version = ⟨Der.integer, [0]⟩ ∧ kind.tag = Der.sequence ∧ key.tag = Der.octets then
        curves.findSome? fun c =>
          if kind.content = algorithm c.1 then
            (publicBits? c.1 c.2 key.content).map fun bits => ⟨algorithm c.1, bits⟩
          else none
      else none
  | _ => none

end PrivateKey

end DockerClient
