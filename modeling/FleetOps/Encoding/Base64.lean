/-! Base 64: four characters for three bytes. The last group of a text may be padded; a
padded group also ends a text that another one follows. Bits that no byte takes are zero.
-/

namespace FleetOps.Base64

/-- The value of a character of the alphabet. -/
def value? (c : Char) : Option Nat :=
  let code := c.toNat
  if 65 ≤ code && code ≤ 90 then some (code - 65)
  else if 97 ≤ code && code ≤ 122 then some (code - 97 + 26)
  else if 48 ≤ code && code ≤ 57 then some (code - 48 + 52)
  else if c == '+' then some 62
  else if c == '/' then some 63
  else none

/-- Whether a character occurs in encoded text, padding included. -/
def isAlphabet (c : Char) : Bool := (value? c).isSome || c == '='

/-- The bytes of one group of four characters. -/
def group? (a b c d : Char) : Option (List UInt8) := do
  let x ← value? a
  let y ← value? b
  if c == '=' && d == '=' then
    if y % 16 == 0 then some [(x * 4 + y / 16).toUInt8] else none
  else
    let z ← value? c
    if d == '=' then
      if z % 4 == 0 then
        some [(x * 4 + y / 16).toUInt8, (y % 16 * 16 + z / 4).toUInt8]
      else none
    else
      let w ← value? d
      some
        [(x * 4 + y / 16).toUInt8, (y % 16 * 16 + z / 4).toUInt8, (z % 4 * 64 + w).toUInt8]

/-- The bytes of a text, which must consist of whole groups. -/
def decode? : List Char → Option (List UInt8)
  | [] => some []
  | a :: b :: c :: d :: rest => do
      let group ← group? a b c d
      let others ← decode? rest
      some (group ++ others)
  | _ => none

end FleetOps.Base64
