/-! Arithmetic modulo a prime. -/

namespace FleetOps.Curve

/-- A power modulo `m`, by repeated squaring. -/
def powerMod (m base exponent : Nat) : Nat :=
  if zero : exponent = 0 then 1 % m
  else
    let half := powerMod m (base * base % m) (exponent / 2)
    if exponent % 2 == 1 then base * half % m else half
termination_by exponent
decreasing_by omega

/-- The inverse modulo a prime `p`; zero has none and gives zero. -/
def inverse (p a : Nat) : Nat := powerMod p a (p - 2)

/-- The difference modulo `p` of two residues. -/
def minus (p a b : Nat) : Nat := (a + p - b) % p

end FleetOps.Curve
