/-! Decimal numerals of bounded size: an optional sign, then ASCII digits, of which the
first may be zeros. Nothing else is allowed, no blanks and no separators.
-/

namespace FleetOps.Text

/-- Why a text is not a numeral of the wanted kind. -/
inductive NumeralFault where
  | empty
  | invalidDigit
  | tooLarge
  | tooSmall

namespace NumeralFault

/-- The sentence that tells a caller about the fault. -/
def message : NumeralFault → String
  | empty => "cannot parse integer from empty string"
  | invalidDigit => "invalid digit found in string"
  | tooLarge => "number too large to fit in target type"
  | tooSmall => "number too small to fit in target type"

end NumeralFault

/-- The value of an ASCII digit. -/
def digit? (c : Char) : Option Nat :=
  if '0'.toNat ≤ c.toNat && c.toNat ≤ '9'.toNat then some (c.toNat - '0'.toNat) else none

/-- The value of a hexadecimal digit, in either case. -/
def hexDigit? (c : Char) : Option Nat :=
  let code := c.toNat
  if 0x30 ≤ code && code ≤ 0x39 then some (code - 0x30)
  else if 0x41 ≤ code && code ≤ 0x46 then some (code - 0x41 + 10)
  else if 0x61 ≤ code && code ≤ 0x66 then some (code - 0x61 + 10)
  else none

/-- Extends a number by one more digit while it stays within `limit`. -/
def extendNumber (limit : Nat) (excess : NumeralFault) (n : Nat) (c : Char)
    : Except NumeralFault Nat :=
  match digit? c with
  | none => .error .invalidDigit
  | some d => if n * 10 + d ≤ limit then .ok (n * 10 + d) else .error excess

/-- The number that one or more digits write, read from the left up to the first fault. -/
def digitsWithin (limit : Nat) (excess : NumeralFault) (digits : List Char)
    : Except NumeralFault Nat :=
  match digits with
  | [] => .error .invalidDigit
  | _ => digits.foldlM (extendNumber limit excess) 0

/-- A natural number up to `limit`, with an optional plus sign. -/
def naturalWithin (limit : Nat) (s : String) : Except NumeralFault Nat :=
  match s.toList with
  | [] => .error .empty
  | '+' :: digits => digitsWithin limit .tooLarge digits
  | digits => digitsWithin limit .tooLarge digits

/-- An integer from `-(limit + 1)` to `limit`, with an optional sign. -/
def integerWithin (limit : Nat) (s : String) : Except NumeralFault Int :=
  match s.toList with
  | [] => .error .empty
  | '-' :: digits => (digitsWithin (limit + 1) .tooSmall digits).map fun n => -(n : Int)
  | '+' :: digits => (digitsWithin limit .tooLarge digits).map Int.ofNat
  | digits => (digitsWithin limit .tooLarge digits).map Int.ofNat

/-- The largest number of 16 bits. -/
def word16Limit : Nat := 0xFFFF

/-- The largest number of 32 bits. -/
def word32Limit : Nat := 0xFFFFFFFF

/-- The largest number of 64 bits. -/
def word64Limit : Nat := 0xFFFFFFFFFFFFFFFF

/-- The largest signed number of 64 bits. -/
def signed64Limit : Nat := 0x7FFFFFFFFFFFFFFF

end FleetOps.Text
