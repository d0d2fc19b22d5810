import DockerClient.Tls.Certificate
import DockerClient.Tls.Library
import DockerClient.Tls.Pem

/-
**A small TLS library**, for surroundings that name no other.

It reads PEM files and looks into certificates as far as their public key.  Of private keys it knows
those on two curves, P-256 and P-384; a key of another kind is read, and can not be presented.

* `TlsLibrary.pem` — the library.
-/

set_option relaxedAutoImplicit false
set_option autoImplicit false

namespace DockerClient

namespace TlsLibrary

/-- What is said of everything that is refused. -/
def refusal : String := "<detail>"

/-- The certificates of a file, and that its rest could not be read. -/
def certificatesIn (content : List UInt8) : List (Except String (List UInt8)) :=
  let reading := Pem.read content
  let found := reading.sections.filter fun s => s.label == Text.encode "CERTIFICATE"
  found.map (fun s => .ok s.content) ++ if reading.complete then [] else [.error refusal]

/-- The private key in a section. -/
def keyIn? (s : Pem.Section) : Option TlsKey :=
  if s.label = Text.encode "PRIVATE KEY" then some (.pkcs8 s.content)
  else if s.label = Text.encode "EC PRIVATE KEY" then some (.sec1 s.content)
  else if s.label = Text.encode "RSA PRIVATE KEY" then some (.pkcs1 s.content)
  else none

/-- The first private key of a file. -/
def firstKey (content : List UInt8) : Except String (Option TlsKey) :=
  let reading := Pem.read content
  match reading.sections.findSome? keyIn? with
  | some key => .ok (some key)
  | none => if reading.complete then .ok none else .error refusal

/-- The public part of a private key. -/
def publicKey? : TlsKey → Option PublicKey
  | .pkcs1 _ => none
  | .sec1 content => PrivateKey.bareKey? content
  | .pkcs8 content => PrivateKey.wrappedKey? content

/-- A key can be presented with a chain whose first certificate is about it. -/
def presentable (chain : List (List UInt8)) (key : TlsKey) : Except String Unit :=
  match publicKey? key, chain.head?.bind Certificate.publicKey? with
  | some own, some certified => if own = certified then .ok () else .error refusal
  | _, _ => .error refusal

/-- A library for PEM files, and keys on two curves. -/
def pem : TlsLibrary where
  certificates := certificatesIn
  trust der := if (Certificate.publicKey? der).isSome then .ok () else .error refusal
  privateKey := firstKey
  present := presentable

end TlsLibrary

end DockerClient
