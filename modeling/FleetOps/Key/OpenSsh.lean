import FleetOps.Key.PrivateKey
import FleetOps.Text.Utf8

/-! The key files of OpenSSH, as far as they are not encrypted. Lengths, padding and the two
check numbers must be exact, and the public key must stand in both parts of the file.
-/

namespace FleetOps.PrivateKey.OpenSsh

/-- The bytes a file starts with. -/
def magic : List UInt8 := Utf8.encode "openssh-key-v1" ++ [0]

/-- A block with its size in front. -/
def sized (bytes : List UInt8) : List UInt8 := Octets.ofNat 4 bytes.length ++ bytes

/-- A name as a block. -/
def sizedName (name : String) : List UInt8 := sized (Utf8.encode name)

/-- A block that must hold a given name, and the bytes after it. -/
def expectName? (name : String) (bytes : List UInt8) : Option (List UInt8) := do
  let (block, rest) ← Octets.block? bytes
  if block == Utf8.encode name then some rest else none

/-- A block that holds a number without needless zeros, and the bytes after it. -/
def numberBlock? (bytes : List UInt8) : Option (List UInt8 × List UInt8) := do
  let (block, rest) ← Octets.block? bytes
  match block with
  | [0] => none
  | 0 :: next :: _ => if next < 0x80 then none else some (block, rest)
  | _ => some (block, rest)

/-- A key with its public part as it stands in a file, and the bytes after it. -/
structure Entry where
  key : PrivateKey
  publicPart : List UInt8
  rest : List UInt8

/-- Reads an Ed25519 key, whose public part must belong to the secret. -/
def ed25519? (bytes : List UInt8) : Option Entry := do
  let (point, afterPoint) ← Octets.block? bytes
  let (pair, rest) ← Octets.block? afterPoint
  let secret := pair.take 32
  if point.length == 32 && pair.length == 64 && pair.drop 32 == point
      && Curve.Edwards.publicKey secret == point then
    some
      {
        key := .ed25519 secret
        publicPart := sizedName "ssh-ed25519" ++ sized point
        rest := rest
      }
  else none

/-- Whether bytes have the form of a point of a curve. -/
def isPoint (curve : Curve.Weierstrass) (bytes : List UInt8) : Bool :=
  match bytes with
  | [] => false
  | first :: rest =>
      if first == 4 then rest.length == 2 * curve.size
      else (first == 2 || first == 3) && rest.length == curve.size

/-- Reads a key of one of the prime curves. -/
def ecdsa? (curve : Curve.Weierstrass) (bytes : List UInt8) : Option Entry := do
  let afterName ← expectName? curve.name bytes
  let (point, afterPoint) ← Octets.block? afterName
  let (secret, rest) ← Octets.block? afterPoint
  let wide := secret.length == curve.size + 1 && secret.head? == some 0
  if isPoint curve point && (secret.length == curve.size || wide) then
    some
      {
        key := .ecdsa curve (Octets.toNat secret)
        publicPart :=
          sizedName ("ecdsa-sha2-" ++ curve.name) ++ sizedName curve.name ++ sized point
        rest := rest
      }
  else none

/-- Reads an RSA key. -/
def rsa? (bytes : List UInt8) : Option Entry := do
  let (modulus, afterModulus) ← numberBlock? bytes
  let (exponent, afterExponent) ← numberBlock? afterModulus
  let (secret, afterSecret) ← numberBlock? afterExponent
  let (_, afterInverse) ← numberBlock? afterSecret
  let (_, afterFirst) ← numberBlock? afterInverse
  let (_, rest) ← numberBlock? afterFirst
  some
    {
      key := .rsa (Octets.toNat modulus) (Octets.toNat exponent) (Octets.toNat secret)
      publicPart := sizedName "ssh-rsa" ++ sized exponent ++ sized modulus
      rest := rest
    }

/-- Reads the key at the head of the private part. -/
def entry? (bytes : List UInt8) : Option Entry := do
  let (name, rest) ← Octets.block? bytes
  if name == Utf8.encode "ssh-ed25519" then ed25519? rest
  else if name == Utf8.encode "ecdsa-sha2-nistp256" then ecdsa? .p256 rest
  else if name == Utf8.encode "ecdsa-sha2-nistp384" then ecdsa? .p384 rest
  else if name == Utf8.encode "ecdsa-sha2-nistp521" then ecdsa? .p521 rest
  else if name == Utf8.encode "ssh-rsa" then rsa? rest
  else none

/-- Whether bytes are the padding after a key: fewer than eight, counting from one. -/
def isPadding (bytes : List UInt8) : Bool :=
  bytes.length < 8 && bytes == (List.range bytes.length).map fun i => (i + 1).toUInt8

/-- Reads the private part of a file. -/
def privatePart? (publicPart bytes : List UInt8) : Option PrivateKey := do
  let (first, afterFirst) ← Octets.word32? bytes
  let (second, afterSecond) ← Octets.word32? afterFirst
  let entry ← entry? afterSecond
  let (comment, padding) ← Octets.block? entry.rest
  let _ ← Utf8.decode? comment
  if bytes.length % 8 == 0 && first == second && entry.publicPart == publicPart
      && isPadding padding then
    some entry.key
  else none

/-- Reads a file. -/
def decode? (bytes : List UInt8) : Option PrivateKey := do
  let (start, afterMagic) ← Octets.take? magic.length bytes
  let afterCipher ← expectName? "none" afterMagic
  let afterDerivation ← expectName? "none" afterCipher
  let afterOptions ← expectName? "" afterDerivation
  let (count, afterCount) ← Octets.word32? afterOptions
  let (publicPart, afterPublic) ← Octets.block? afterCount
  let (privatePart, rest) ← Octets.block? afterPublic
  if start == magic && count == 1 && rest.isEmpty then privatePart? publicPart privatePart
  else none

end FleetOps.PrivateKey.OpenSsh
