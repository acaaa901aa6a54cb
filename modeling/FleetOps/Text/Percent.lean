import FleetOps.Text.Utf8

/-! Percent escapes: `%` and two hexadecimal digits stand for a byte. A percent sign that
two such digits do not follow stands for itself.
-/

namespace FleetOps.Percent

/-- The value of a hexadecimal digit, given as a byte. -/
def hexValue? (b : UInt8) : Option UInt8 :=
  if 48 ≤ b && b ≤ 57 then some (b - 48)
  else if 65 ≤ b && b ≤ 70 then some (b - 55)
  else if 97 ≤ b && b ≤ 102 then some (b - 87)
  else none

/-- The bytes with their escapes undone. -/
def decode : List UInt8 → List UInt8
  | [] => []
  | a :: b :: c :: rest =>
      if a == 37 then
        match hexValue? b, hexValue? c with
        | some high, some low => (high * 16 + low) :: decode rest
        | _, _ => a :: decode (b :: c :: rest)
      else a :: decode (b :: c :: rest)
  | a :: rest => a :: decode rest

/-- The text with its escapes undone, if that leaves well-formed text. -/
def decodeText? (s : String) : Option String := Utf8.decode? (decode (Utf8.encode s))

end FleetOps.Percent
