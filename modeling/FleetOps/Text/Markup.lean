/-! Text inside an HTML page: the five characters with a meaning of their own are written as
character references, and reading the references gives the text back.
-/

namespace FleetOps.Markup

/-- How one character stands in page text and in quoted attributes. -/
def escapeChar (c : Char) : List Char :=
  match c with
  | '&' => "&amp;".toList
  | '<' => "&lt;".toList
  | '>' => "&gt;".toList
  | '"' => "&quot;".toList
  | '\'' => "&#39;".toList
  | c => [c]

/-- The characters with references in place of the five special ones. -/
def escapeChars (s : List Char) : List Char := s.flatMap escapeChar

/-- The text with references in place of the five special characters. -/
def escape (s : String) : String := String.ofList (escapeChars s.toList)

end FleetOps.Markup
