import FleetOps.Curve.Field
import FleetOps.Digest.Sha512

/-! The twisted Edwards curve of Ed25519 keys, and the public key of a secret one. -/

namespace FleetOps.Curve.Edwards

/-- The prime of the field. -/
def p : Nat := Nat.pow 2 255 - 19

/-- The parameter of the curve. -/
def d : Nat := minus p 0 (121665 * inverse p 121666 % p)

/-- A point in extended coordinates: `x / z`, `y / z`, and `t / z = x * y / z ^ 2`. -/
structure Point where
  x : Nat
  y : Nat
  z : Nat
  t : Nat

/-- The neutral point. -/
def neutral : Point := ⟨0, 1, 1, 0⟩

/-- The base point, whose second coordinate is 4 / 5. -/
def base : Point :=
  let x := 15112221349535400772501151409588531511454012693041857206046113283949847762202
  let y := 4 * inverse p 5 % p
  ⟨x, y, 1, x * y % p⟩

/-- The sum of two points; the formula holds for all of them. -/
def add (s r : Point) : Point :=
  let a := minus p s.y s.x * minus p r.y r.x % p
  let b := (s.y + s.x) * (r.y + r.x) % p
  let c := s.t * 2 % p * d % p * r.t % p
  let e := s.z * 2 * r.z % p
  let f := minus p b a
  let g := minus p e c
  let h := (e + c) % p
  let i := (b + a) % p
  ⟨f * g % p, h * i % p, g * h % p, f * i % p⟩

/-- The point added to itself `n` times. -/
def multiply (n : Nat) (point : Point) : Point :=
  if zero : n = 0 then neutral
  else
    let half := multiply (n / 2) (add point point)
    if n % 2 == 1 then add point half else half
termination_by n
decreasing_by omega

/-- The 32 bytes of a point: its second coordinate and one bit of the first. -/
def encode (point : Point) : List UInt8 :=
  let scale := inverse p point.z
  let x := point.x * scale % p
  let y := point.y * scale % p
  Octets.ofNatLittle 32 (y + x % 2 * Nat.pow 2 255)

/-- The scalar of a secret of 32 bytes: a digest with some bits fixed. -/
def scalar (secret : List UInt8) : Nat :=
  let n := Octets.toNatLittle ((Sha512.digest secret).take 32)
  n % Nat.pow 2 254 / 8 * 8 + Nat.pow 2 254

/-- The public key of a secret of 32 bytes. -/
def publicKey (secret : List UInt8) : List UInt8 := encode (multiply (scalar secret) base)

end FleetOps.Curve.Edwards
