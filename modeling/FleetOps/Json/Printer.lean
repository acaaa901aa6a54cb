import FleetOps.Json.Decimal
import FleetOps.Json.Value

/-! JSON values as compact text. -/

namespace FleetOps.Json

/-- The digits of an integer with its sign. -/
def integerChars (n : Int) : List Char :=
  if n < 0 then '-' :: Nat.toDigits 10 n.natAbs else Nat.toDigits 10 n.natAbs

/-- The text of a number. -/
def Number.chars : Number → List Char
  | .int value => integerChars value
  | .float bits => Decimal.text bits

/-- A hexadecimal digit in lowercase. -/
def hexChar (n : Nat) : Char :=
  if n < 10 then Char.ofNat ('0'.toNat + n) else Char.ofNat ('a'.toNat + (n - 10))

/-- How one character stands in a string. Only quotes, backslashes and controls are
escaped.
-/
def stringChar (c : Char) : List Char :=
  if c == '"' then ['\\', '"']
  else if c == '\\' then ['\\', '\\']
  else if c == '\n' then ['\\', 'n']
  else if c == '\r' then ['\\', 'r']
  else if c == '\t' then ['\\', 't']
  else if c.toNat == 8 then ['\\', 'b']
  else if c.toNat == 12 then ['\\', 'f']
  else if c.toNat < 0x20 then
    ['\\', 'u', '0', '0', hexChar (c.toNat / 16), hexChar (c.toNat % 16)]
  else [c]

/-- A text as a string between quotes. -/
def stringChars (s : String) : List Char :=
  '"' :: (s.toList.flatMap stringChar ++ ['"'])

mutual

/-- The text of a value. -/
def Value.chars : Value → List Char
  | .null => ['n', 'u', 'l', 'l']
  | .bool true => ['t', 'r', 'u', 'e']
  | .bool false => ['f', 'a', 'l', 's', 'e']
  | .number value => value.chars
  | .text value => stringChars value
  | .array items => '[' :: (itemsChars items ++ [']'])
  | .object members => '\x7b' :: (membersChars members ++ ['\x7d'])

/-- The items of an array, with commas between them. -/
def itemsChars : List Value → List Char
  | [] => []
  | [item] => item.chars
  | item :: rest => item.chars ++ ',' :: itemsChars rest

/-- The members of an object, with commas between them. -/
def membersChars : List (String × Value) → List Char
  | [] => []
  | [(name, value)] => stringChars name ++ ':' :: value.chars
  | (name, value) :: rest =>
      stringChars name ++ ':' :: (value.chars ++ ',' :: membersChars rest)

end

/-- The compact text of a value. -/
def Value.render (value : Value) : String := String.ofList value.chars

end FleetOps.Json
