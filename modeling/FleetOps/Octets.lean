/-! Bytes as numbers and as blocks. Numbers are written with the greatest byte first. -/

namespace FleetOps.Octets

/-- The number that the bytes write. -/
def toNat (bytes : List UInt8) : Nat := bytes.foldl (fun n b => n * 256 + b.toNat) 0

/-- The last `size` bytes of a number. -/
def ofNat (size n : Nat) : List UInt8 :=
  (List.range size).map fun i => (n / Nat.pow 256 (size - 1 - i) % 256).toUInt8

/-- The number that the bytes write with the least byte first. -/
def toNatLittle (bytes : List UInt8) : Nat := toNat bytes.reverse

/-- The first `size` bytes of a number, the least first. -/
def ofNatLittle (size n : Nat) : List UInt8 := (ofNat size n).reverse

/-- The first `size` bytes and the rest, if there are so many. -/
def take? (size : Nat) (bytes : List UInt8) : Option (List UInt8 × List UInt8) :=
  if size ≤ bytes.length then some (bytes.take size, bytes.drop size) else none

/-- A number of four bytes and the rest. -/
def word32? (bytes : List UInt8) : Option (Nat × List UInt8) := do
  let (word, rest) ← take? 4 bytes
  some (toNat word, rest)

/-- A block whose size stands before it in four bytes, and the rest. -/
def block? (bytes : List UInt8) : Option (List UInt8 × List UInt8) := do
  let (size, rest) ← word32? bytes
  take? size rest

end FleetOps.Octets
