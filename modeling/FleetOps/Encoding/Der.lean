import FleetOps.Octets

/-! The distinguished encoding of ASN.1 values: a tag, a length in the shortest form, and
the content.
-/

namespace FleetOps.Der

/-- An encoded value: its tag and its content. -/
structure Element where
  tag : UInt8
  content : List UInt8

/-- The tag of integers. -/
def integerTag : UInt8 := 0x02

/-- The tag of bit strings. -/
def bitStringTag : UInt8 := 0x03

/-- The tag of octet strings. -/
def octetStringTag : UInt8 := 0x04

/-- The tag of the value without content. -/
def nullTag : UInt8 := 0x05

/-- The tag of object identifiers. -/
def identifierTag : UInt8 := 0x06

/-- The tag of sequences. -/
def sequenceTag : UInt8 := 0x30

/-- A length and the bytes after it. Lengths from 128 on are written in as many bytes as
they need, which the first byte counts.
-/
def length? (bytes : List UInt8) : Option (Nat × List UInt8) :=
  match bytes with
  | [] => none
  | first :: rest =>
      if first < 0x80 then some (first.toNat, rest)
      else
        let count := first.toNat - 0x80
        if count == 0 || 4 < count then none
        else do
          let (digits, after) ← Octets.take? count rest
          let length := Octets.toNat digits
          if length < 0x80 || length < Nat.pow 256 (count - 1) then none else some (length, after)

/-- The value at the head of the bytes, and the bytes after it. -/
def element? (bytes : List UInt8) : Option (Element × List UInt8) :=
  match bytes with
  | [] => none
  | tag :: rest => do
      let (length, after) ← length? rest
      let (content, others) ← Octets.take? length after
      some ({ tag := tag, content := content }, others)

/-- The content of the value at the head, which must have a given tag. -/
def expect? (tag : UInt8) (bytes : List UInt8) : Option (List UInt8 × List UInt8) := do
  let (element, rest) ← element? bytes
  if element.tag == tag then some (element.content, rest) else none

/-- The content of the value at the head if it has a given tag. -/
def optional? (tag : UInt8) (bytes : List UInt8)
    : Option (Option (List UInt8) × List UInt8) :=
  match bytes with
  | [] => some (none, [])
  | first :: _ =>
      if first == tag then (expect? tag bytes).map fun (content, rest) => (some content, rest)
      else some (none, bytes)

/-- The only value of the bytes, which must have a given tag. -/
def only? (tag : UInt8) (bytes : List UInt8) : Option (List UInt8) := do
  let (content, rest) ← expect? tag bytes
  if rest.isEmpty then some content else none

/-- A natural number in its shortest form. -/
def natural? (content : List UInt8) : Option Nat :=
  match content with
  | [] => none
  | [b] => if b < 0x80 then some b.toNat else none
  | a :: b :: _ =>
      if 0x80 ≤ a || (a == 0 && b < 0x80) then none else some (Octets.toNat content)

/-- The natural number at the head of the bytes, and the bytes after it. -/
def number? (bytes : List UInt8) : Option (Nat × List UInt8) := do
  let (content, rest) ← expect? integerTag bytes
  let n ← natural? content
  some (n, rest)

/-- The octets of a bit string without unused bits. -/
def wholeBits? (content : List UInt8) : Option (List UInt8) :=
  match content with
  | 0 :: octets => some octets
  | _ => none

end FleetOps.Der
