/-! JSON values. Numbers are integers of 64 bits, with or without a sign, or floating point
numbers, which are given by their bits.
-/

namespace FleetOps.Json

/-- A number. Readers yield integers from `-2 ^ 63` to `2 ^ 64 - 1` and finite floats. -/
inductive Number where
  | int (value : Int)
  | float (bits : UInt64)
  deriving DecidableEq

/-- A value. The members of an object that was read are in the order of their names. -/
inductive Value where
  | null
  | bool (value : Bool)
  | number (value : Number)
  | text (value : String)
  | array (items : List Value)
  | object (members : List (String × Value))

end FleetOps.Json
