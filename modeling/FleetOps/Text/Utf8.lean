/-! UTF-8: characters as bytes and bytes as characters. Reading never fails; it marks each
longest piece that no character begins with, and leaves it to the reader what that means.
-/

namespace FleetOps.Utf8

/-- The bytes of a character. -/
def encodeChar (c : Char) : List UInt8 := String.utf8EncodeChar c

/-- The bytes of a text. -/
def encode (s : String) : List UInt8 := s.toList.flatMap encodeChar

/-- A character that has begun: how many bytes it still needs, the bounds on the next one,
and the value of the bytes so far.
-/
structure Pending where
  needed : Nat
  least : UInt8
  greatest : UInt8
  value : Nat

/-- What the first byte of a character starts. -/
inductive Lead where
  | complete (c : Char)
  | pending (p : Pending)
  | stray

/-- Reads the first byte of a character. The bounds on the second byte leave out overlong
forms, surrogates and code points past the last one.
-/
def lead (b : UInt8) : Lead :=
  if b < 0x80 then .complete (Char.ofNat b.toNat)
  else if b < 0xC2 then .stray
  else if b < 0xE0 then .pending ⟨1, 0x80, 0xBF, b.toNat - 0xC0⟩
  else if b == 0xE0 then .pending ⟨2, 0xA0, 0xBF, 0⟩
  else if b == 0xED then .pending ⟨2, 0x80, 0x9F, 0xD⟩
  else if b < 0xF0 then .pending ⟨2, 0x80, 0xBF, b.toNat - 0xE0⟩
  else if b == 0xF0 then .pending ⟨3, 0x90, 0xBF, 0⟩
  else if b < 0xF4 then .pending ⟨3, 0x80, 0xBF, b.toNat - 0xF0⟩
  else if b == 0xF4 then .pending ⟨3, 0x80, 0x8F, 4⟩
  else .stray

/-- The value of a character after one more byte. -/
def Pending.extend (p : Pending) (b : UInt8) : Nat := p.value * 64 + (b.toNat - 0x80)

/-- Reads the bytes after a character has begun, or between characters. -/
def read : Option Pending → List UInt8 → List (Option Char)
  | none, [] => []
  | some _, [] => [none]
  | none, b :: rest =>
      match lead b with
      | .complete c => some c :: read none rest
      | .pending p => read (some p) rest
      | .stray => none :: read none rest
  | some p, b :: rest =>
      if p.least ≤ b && b ≤ p.greatest then
        if p.needed ≤ 1 then some (Char.ofNat (p.extend b)) :: read none rest
        else read (some ⟨p.needed - 1, 0x80, 0xBF, p.extend b⟩) rest
      else
        match lead b with
        | .complete c => none :: some c :: read none rest
        | .pending q => none :: read (some q) rest
        | .stray => none :: none :: read none rest

/-- The characters of the bytes, with `none` for each piece that is not one. -/
def symbols (bytes : List UInt8) : List (Option Char) := read none bytes

/-- The characters of the bytes if all of them are well formed. -/
def chars? (bytes : List UInt8) : Option (List Char) := (symbols bytes).mapM id

/-- The text of the bytes if all of them are well formed. -/
def decode? (bytes : List UInt8) : Option String := (chars? bytes).map String.ofList

/-- The character that stands for a piece that is not well formed. -/
def replacement : Char := Char.ofNat 0xFFFD

/-- The text of the bytes, with a replacement for each piece that is not well formed. -/
def decodeLossy (bytes : List UInt8) : String :=
  String.ofList ((symbols bytes).map (·.getD replacement))

end FleetOps.Utf8
