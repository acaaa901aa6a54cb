import FleetOps.Encoding.Der
import FleetOps.Key.PrivateKey

/-! Private keys in ASN.1: RSA keys, keys of prime curves, and the wrapping that names the
algorithm of the key inside it. The numbers of a key must belong together.
-/

namespace FleetOps.PrivateKey.Asn1

/-- The object identifier of RSA keys. -/
def rsaIdentifier : List UInt8 := [0x2a, 0x86, 0x48, 0x86, 0xf7, 0x0d, 0x01, 0x01, 0x01]

/-- The object identifier of keys on prime curves. -/
def curveKeyIdentifier : List UInt8 := [0x2a, 0x86, 0x48, 0xce, 0x3d, 0x02, 0x01]

/-- The object identifier of Ed25519 keys. -/
def ed25519Identifier : List UInt8 := [0x2b, 0x65, 0x70]

/-- The curve with an object identifier. -/
def curve? (identifier : List UInt8) : Option Curve.Weierstrass :=
  if identifier == [0x2a, 0x86, 0x48, 0xce, 0x3d, 0x03, 0x01, 0x07] then some .p256
  else if identifier == [0x2b, 0x81, 0x04, 0x00, 0x22] then some .p384
  else if identifier == [0x2b, 0x81, 0x04, 0x00, 0x23] then some .p521
  else none

/-- Whether the numbers of an RSA key belong together. -/
def isConsistent (n e d p q : Nat) : Bool :=
  n < Nat.pow 2 4096 && n % 2 == 1 && e % 2 == 1 && 2 ≤ e && e < 0x200000000 && e < n
    && 1 < p && 1 < q && n == p * q
    && e * d % (p - 1) == 1 % (p - 1) && e * d % (q - 1) == 1 % (q - 1)

/-- Reads an RSA key with two primes. -/
def rsa? (bytes : List UInt8) : Option PrivateKey := do
  let content ← Der.only? Der.sequenceTag bytes
  let (version, rest) ← Der.number? content
  let (n, rest) ← Der.number? rest
  let (e, rest) ← Der.number? rest
  let (d, rest) ← Der.number? rest
  let (p, rest) ← Der.number? rest
  let (q, rest) ← Der.number? rest
  let (_, rest) ← Der.number? rest
  let (_, rest) ← Der.number? rest
  let (_, rest) ← Der.number? rest
  if version == 0 && rest.isEmpty && isConsistent n e d p q then some (.rsa n e d) else none

/-- Reads a key on a prime curve. The curve is given, or named by the key; if both, they
must agree. A public point must be the one of the secret.
-/
def curveKey? (given : Option Curve.Weierstrass) (bytes : List UInt8) : Option PrivateKey := do
  let content ← Der.only? Der.sequenceTag bytes
  let (version, rest) ← Der.number? content
  let (octets, rest) ← Der.expect? Der.octetStringTag rest
  let (parameters, rest) ← Der.optional? 0xA0 rest
  let (point, rest) ← Der.optional? 0xA1 rest
  let named ← match parameters with
    | none => some none
    | some encoded => do
        let identifier ← Der.only? Der.identifierTag encoded
        let curve ← curve? identifier
        some (some curve)
  let curve ← match given, named with
    | some curve, none => some curve
    | none, some curve => some curve
    | some curve, some other => if curve.name == other.name then some curve else none
    | none, none => none
  let secret := Octets.toNat octets
  let pointFits ← match point with
    | none => some true
    | some encoded => do
        let bits ← Der.only? Der.bitStringTag encoded
        let octets ← Der.wholeBits? bits
        some (octets == curve.publicPoint secret (octets.length == curve.size + 1))
  if version == 1 && rest.isEmpty && octets.length == curve.size && 0 < secret
      && secret < curve.order && pointFits then
    some (.ecdsa curve secret)
  else none

/-- Reads the key inside a wrapping that names its algorithm. -/
def algorithmKey? (identifier parameters key : List UInt8) : Option PrivateKey :=
  if identifier == ed25519Identifier then do
    let secret ← Der.only? Der.octetStringTag key
    if parameters.isEmpty && secret.length == 32 then some (.ed25519 secret) else none
  else if identifier == curveKeyIdentifier then do
    let curve ← (Der.only? Der.identifierTag parameters).bind curve?
    curveKey? (some curve) key
  else if identifier == rsaIdentifier then
    if parameters == [Der.nullTag, 0] then rsa? key else none
  else none

/-- Reads a wrapped key. A public key may stand beside it from the second version on. -/
def wrapped? (bytes : List UInt8) : Option PrivateKey := do
  let content ← Der.only? Der.sequenceTag bytes
  let (version, rest) ← Der.number? content
  let (algorithm, rest) ← Der.expect? Der.sequenceTag rest
  let (key, rest) ← Der.expect? Der.octetStringTag rest
  let (_, rest) ← Der.optional? 0xA0 rest
  let (publicKey, rest) ← Der.optional? 0x81 rest
  let (identifier, parameters) ← Der.expect? Der.identifierTag algorithm
  if rest.isEmpty && version ≤ 1 && (version == 1) == publicKey.isSome then
    algorithmKey? identifier parameters key
  else none

/-- Reads a wrapped key, or else a key on a prime curve that names its curve. -/
def decode? (bytes : List UInt8) : Option PrivateKey := wrapped? bytes <|> curveKey? none bytes

end FleetOps.PrivateKey.Asn1
