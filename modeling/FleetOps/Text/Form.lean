import FleetOps.Text.Percent

/-! Forms and queries: pieces between ampersands, each a name and a value around the first
equals sign. A plus sign is a space, escapes are undone, and text that is not well formed is
replaced. Empty pieces do not count.
-/

namespace FleetOps.Form

/-- The pieces of the bytes between separators. -/
def splitAt (separator : UInt8) : List UInt8 → List (List UInt8)
  | [] => [[]]
  | b :: rest =>
      if b == separator then [] :: splitAt separator rest
      else
        match splitAt separator rest with
        | [] => [[b]]
        | piece :: pieces => (b :: piece) :: pieces

/-- The text of a name or a value. -/
def decodePart (part : List UInt8) : String :=
  Utf8.decodeLossy (Percent.decode (part.map fun b => if b == 43 then 32 else b))

/-- The name and the value of a piece. Without an equals sign the value is empty. -/
def decodePair (piece : List UInt8) : String × String :=
  (decodePart (piece.takeWhile (· != 61)), decodePart ((piece.dropWhile (· != 61)).drop 1))

/-- The names and values of the bytes, in their order. -/
def pairs (bytes : List UInt8) : List (String × String) :=
  ((splitAt 38 bytes).filter (!·.isEmpty)).map decodePair

/-- The value of the only pair with a name: `none` if two pairs have it. -/
def single? (pairs : List (String × String)) (name : String) : Option (Option String) :=
  match pairs.filter (·.1 == name) with
  | [] => some none
  | [pair] => some (some pair.2)
  | _ => none

end FleetOps.Form
