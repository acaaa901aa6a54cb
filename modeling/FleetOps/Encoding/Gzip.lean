import FleetOps.Encoding.Inflate
import FleetOps.Octets

/-! The gzip format: a header, compressed data, and a checksum and the length of the data. -/

namespace FleetOps.Gzip

/-- One bit of the checksum. -/
def checksumBit (sum : UInt32) : UInt32 :=
  if sum &&& 1 == 1 then (sum >>> 1) ^^^ 0xEDB88320 else sum >>> 1

/-- Takes a byte into the checksum. -/
def checksumByte (sum : UInt32) (b : UInt8) : UInt32 :=
  (List.range 8).foldl (fun sum _ => checksumBit sum) (sum ^^^ b.toUInt32)

/-- The checksum CRC-32 of bytes. -/
def checksum (bytes : List UInt8) : UInt32 :=
  (bytes.foldl checksumByte 0xFFFFFFFF) ^^^ 0xFFFFFFFF

/-- The bytes after a text that ends in zero. -/
def afterText? : List UInt8 → Option (List UInt8)
  | [] => none
  | b :: rest => if b == 0 then some rest else afterText? rest

/-- The bytes after the optional parts of the header that the flags announce. -/
def afterOptions? (flags : Nat) (bytes : List UInt8) : Option (List UInt8) := do
  let bytes ←
    if flags.testBit 2 then do
      let (size, rest) ← Octets.take? 2 bytes
      let (_, rest) ← Octets.take? (Octets.toNatLittle size) rest
      some rest
    else some bytes
  let bytes ← if flags.testBit 3 then afterText? bytes else some bytes
  let bytes ← if flags.testBit 4 then afterText? bytes else some bytes
  if flags.testBit 1 then (Octets.take? 2 bytes).map (·.2) else some bytes

/-- The data of a file. -/
def decode? (bytes : List UInt8) : Option (List UInt8) :=
  match bytes with
  | 0x1f :: 0x8b :: 8 :: flags :: rest => do
      let (_, rest) ← Octets.take? 6 rest
      let compressed ← afterOptions? flags.toNat rest
      let (output, after) ← Inflate.stream? (Inflate.bits compressed)
      let (sum, after) ← Inflate.number? 32 (after.drop (after.length % 8))
      let (length, _) ← Inflate.number? 32 after
      let data := output.toList
      if sum == (checksum data).toNat && length == data.length % 0x100000000 then some data
      else none
  | _ => none

end FleetOps.Gzip
