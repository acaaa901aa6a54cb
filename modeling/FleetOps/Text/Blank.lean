/-! White space in the sense of Unicode's `White_Space` property, and trimming by it.
Trimming removes blank characters at the ends and keeps every character between them.
-/

namespace FleetOps.Text

/-- The characters with the `White_Space` property. Zero width characters are not among them. -/
def isBlank (c : Char) : Bool :=
  let code := c.toNat
  (9 ≤ code && code ≤ 13) || code == 0x20 || code == 0x85 || code == 0xA0
    || code == 0x1680 || (0x2000 ≤ code && code ≤ 0x200A)
    || code == 0x2028 || code == 0x2029 || code == 0x202F || code == 0x205F
    || code == 0x3000

/-- The characters after the leading blanks. -/
def dropBlanks (s : List Char) : List Char := s.dropWhile isBlank

/-- The characters before the trailing blanks. -/
def dropTrailingBlanks (s : List Char) : List Char :=
  (s.reverse.dropWhile isBlank).reverse

/-- The characters between the leading and the trailing blanks. -/
def trimChars (s : List Char) : List Char := dropTrailingBlanks (dropBlanks s)

/-- The text without its leading and trailing blanks. -/
def trim (s : String) : String := String.ofList (trimChars s.toList)

/-- A text is blank when trimming leaves nothing. -/
def isBlankText (s : String) : Bool := s.toList.all isBlank

end FleetOps.Text
