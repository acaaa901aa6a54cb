import FleetOps.Text.CaseRange

/-! Lowercase text by Unicode's full mapping. A form may be longer than its letter, and the
form of a capital sigma depends on whether the letter ends a word.
-/

namespace FleetOps.Text

/-- The lowercase form of one character, apart from its surroundings. -/
def lowerChar (c : Char) : List Char :=
  if c.toNat == 0x130 then ['i', Char.ofNat 0x307]
  else
    match caseRanges.findSome? (·.lower? c.toNat) with
    | some code => [Char.ofNat code]
    | none => [c]

/-- Whether a character has a case. -/
def isCased (c : Char) : Bool := inRanges casedRanges c.toNat

/-- Whether a character is passed over in the search for a cased neighbour. -/
def isCaseIgnorable (c : Char) : Bool := inRanges caseIgnorableRanges c.toNat

/-- The nearest character that is not passed over is cased. -/
def meetsCased (neighbours : List Char) : Bool :=
  match neighbours.dropWhile isCaseIgnorable with
  | [] => false
  | c :: _ => isCased c

/-- The capital sigma. -/
def capitalSigma : Char := Char.ofNat 0x3A3

/-- Lowercases the characters that follow `before`, which lists the earlier ones, nearest
first. A capital sigma after a cased character and before none takes its final form.
-/
def lowerAfter (before : List Char) : List Char → List Char
  | [] => []
  | c :: rest =>
      let form :=
        if c == capitalSigma then
          if meetsCased before && !meetsCased rest then [Char.ofNat 0x3C2]
          else [Char.ofNat 0x3C3]
        else lowerChar c
      form ++ lowerAfter (c :: before) rest

/-- The lowercase form of a text. -/
def lowerChars (s : List Char) : List Char := lowerAfter [] s

end FleetOps.Text
