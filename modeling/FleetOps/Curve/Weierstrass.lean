import FleetOps.Curve.Field
import FleetOps.Octets

/-! The prime curves of ECDSA keys, and the public point of a secret number. On all of them
the coefficient of `x` is -3.
-/

namespace FleetOps.Curve

/-- A curve: its field, its second coefficient, its base point and the point's order. -/
structure Weierstrass where
  name : String
  size : Nat
  p : Nat
  order : Nat
  x : Nat
  y : Nat

namespace Weierstrass

/-- The curve of 256 bits. -/
def p256 : Weierstrass :=
  {
    name := "nistp256"
    size := 32
    p := 0xffffffff00000001000000000000000000000000ffffffffffffffffffffffff
    order := 0xffffffff00000000ffffffffffffffffbce6faada7179e84f3b9cac2fc632551
    x := 0x6b17d1f2e12c4247f8bce6e563a440f277037d812deb33a0f4a13945d898c296
    y := 0x4fe342e2fe1a7f9b8ee7eb4a7c0f9e162bce33576b315ececbb6406837bf51f5
  }

/-- The curve of 384 bits. -/
def p384 : Weierstrass :=
  {
    name := "nistp384"
    size := 48
    p := Nat.pow 2 384 - Nat.pow 2 128 - Nat.pow 2 96 + Nat.pow 2 32 - 1
    order :=
      0xffffffffffffffffffffffffffffffffffffffffffffffffc7634d81f4372ddf581a0db248b0a77aecec196accc52973
    x :=
      0xaa87ca22be8b05378eb1c71ef320ad746e1d3b628ba79b9859f741e082542a385502f25dbf55296c3a545e3872760ab7
    y :=
      0x3617de4a96262c6f5d9e98bf9292dc29f8f41dbd289a147ce9da3113b5f0b8c00a60b1ce1d7e819d7a431d7c90ea0e5f
  }

/-- The curve of 521 bits. -/
def p521 : Weierstrass :=
  {
    name := "nistp521"
    size := 66
    p := Nat.pow 2 521 - 1
    order :=
      0x01fffffffffffffffffffffffffffffffffffffffffffffffffffffffffffffffffa51868783bf2f966b7fcc0148f709a5d03bb5c9b8899c47aebb6fb71e91386409
    x :=
      0x00c6858e06b70404e9cd9e3ecb662395b4429c648139053fb521f828af606b4d3dbaa14b5e77efe75928fe1dc127a2ffa8de3348b3c1856a429bf97e7e31c2e5bd66
    y :=
      0x011839296a789a3bc0045c8a5fb42c7d1bd998f54449579b446817afbd17273e662c97ee72995ef42640c550b9013fad0761353c7086a272c24088be94769fd16650
  }

/-- A point: `x / z ^ 2` and `y / z ^ 3`, or the point at infinity if `z` is zero. -/
structure Point where
  x : Nat
  y : Nat
  z : Nat

/-- The point at infinity. -/
def infinity : Point := ⟨1, 1, 0⟩

/-- Twice a point. -/
def double (curve : Weierstrass) (s : Point) : Point :=
  let p := curve.p
  if s.z == 0 || s.y == 0 then infinity
  else
    let yy := s.y * s.y % p
    let zz := s.z * s.z % p
    let m := 3 * (minus p s.x zz) * ((s.x + zz) % p) % p
    let w := 4 * s.x * yy % p
    let x := minus p (m * m % p) (2 * w % p)
    let y := minus p (m * minus p w x % p) (8 * yy * yy % p)
    ⟨x, y, 2 * s.y * s.z % p⟩

/-- The sum of two points. -/
def add (curve : Weierstrass) (s r : Point) : Point :=
  let p := curve.p
  if s.z == 0 then r
  else if r.z == 0 then s
  else
    let sz := s.z * s.z % p
    let rz := r.z * r.z % p
    let sx := s.x * rz % p
    let rx := r.x * sz % p
    let sy := s.y * rz % p * r.z % p
    let ry := r.y * sz % p * s.z % p
    if sx == rx then if sy == ry then double curve s else infinity
    else
      let h := minus p rx sx
      let k := minus p ry sy
      let hh := h * h % p
      let hhh := hh * h % p
      let v := sx * hh % p
      let x := minus p (minus p (k * k % p) hhh) (2 * v % p)
      let y := minus p (k * minus p v x % p) (sy * hhh % p)
      ⟨x, y, h * s.z % p * r.z % p⟩

/-- The point added to itself `n` times. -/
def multiply (curve : Weierstrass) (n : Nat) (point : Point) : Point :=
  if zero : n = 0 then infinity
  else
    let half := multiply curve (n / 2) (double curve point)
    if n % 2 == 1 then add curve point half else half
termination_by n
decreasing_by omega

/-- The bytes of the public point of a secret number: both coordinates after the byte 4, or
in short form the first after a byte that tells whether the second is odd.
-/
def publicPoint (curve : Weierstrass) (secret : Nat) (short : Bool) : List UInt8 :=
  let p := curve.p
  let point := multiply curve secret ⟨curve.x, curve.y, 1⟩
  let inv := inverse p point.z
  let x := point.x * (inv * inv % p) % p
  let y := point.y * (inv * inv % p * inv % p) % p
  if short then (if y % 2 == 0 then 2 else 3) :: Octets.ofNat curve.size x
  else 4 :: (Octets.ofNat curve.size x ++ Octets.ofNat curve.size y)

end Weierstrass

end FleetOps.Curve
