import FleetOps.Curve.Edwards
import FleetOps.Curve.Weierstrass

/-! Private keys for logging in to relays and nodes. -/

namespace FleetOps

/-- A private key. -/
inductive PrivateKey where
  | ed25519 (secret : List UInt8)
  | ecdsa (curve : Curve.Weierstrass) (secret : Nat)
  | rsa (modulus publicExponent privateExponent : Nat)

namespace PrivateKey

/-- The name of the key's algorithm in a login. -/
def algorithm : PrivateKey → String
  | ed25519 _ => "ssh-ed25519"
  | ecdsa curve _ => "ecdsa-sha2-" ++ curve.name
  | rsa _ _ _ => "ssh-rsa"

end PrivateKey

end FleetOps
