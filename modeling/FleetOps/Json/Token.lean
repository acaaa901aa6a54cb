import FleetOps.Json.Decimal
import FleetOps.Json.Value
import FleetOps.Text.Numeral

/-! The tokens of JSON text. The text is given as characters, with `none` for a piece of
input that is no character; such pieces may stand inside strings only, and make the string
unreadable, as an escaped surrogate without its partner does. A number that no value can
hold is unreadable too. Unreadable tokens are errors only where their content is wanted.
-/

namespace FleetOps.Json

/-- A token. Strings and numbers carry their content if they have one. -/
inductive Token where
  | openArray
  | closeArray
  | openObject
  | closeObject
  | comma
  | colon
  | null
  | bool (value : Bool)
  | number (value : Option Number)
  | text (content : Option String)

/-- Input characters, with `none` for a piece that is not one. -/
abbrev Symbols := List (Option Char)

/-- The characters between tokens. -/
def isSpace (c : Char) : Bool := c == ' ' || c == '\n' || c == '\t' || c == '\r'

/-- The value of a decimal digit. -/
def digitValue? (symbol : Option Char) : Option Nat := symbol.bind Text.digit?

/-- The value of a hexadecimal digit. -/
def hexValue? (symbol : Option Char) : Option Nat := symbol.bind Text.hexDigit?

/-- A part of a string: a character, half of a pair of surrogates, or unreadable input. -/
inductive StringUnit where
  | char (c : Char)
  | surrogate (code : Nat)
  | unreadable

/-- The unit that an escape with a code of sixteen bits stands for. -/
def StringUnit.ofCode (code : Nat) : StringUnit :=
  if 0xD800 ≤ code && code < 0xE000 then surrogate code else char (Char.ofNat code)

/-- The character that a letter after a backslash stands for. -/
def shortEscape? (c : Char) : Option Char :=
  match c with
  | '"' => some '"'
  | '\\' => some '\\'
  | '/' => some '/'
  | 'b' => some (Char.ofNat 8)
  | 'f' => some (Char.ofNat 12)
  | 'n' => some '\n'
  | 'r' => some '\r'
  | 't' => some '\t'
  | _ => none

/-- Reads the rest of a string whose quote was opened: its units in order, and the input
after the closing quote.
-/
def scanString : Symbols → Option (List StringUnit × Symbols)
  | [] => none
  | some '"' :: rest => some ([], rest)
  | some '\\' :: some 'u' :: a :: b :: c :: d :: rest =>
      match hexValue? a, hexValue? b, hexValue? c, hexValue? d with
      | some a, some b, some c, some d =>
          (scanString rest).map fun (units, after) =>
            (.ofCode (((a * 16 + b) * 16 + c) * 16 + d) :: units, after)
      | _, _, _, _ => none
  | some '\\' :: some c :: rest =>
      match shortEscape? c with
      | some escaped => (scanString rest).map fun (units, after) => (.char escaped :: units, after)
      | none => none
  | some '\\' :: _ => none
  | some c :: rest =>
      if c.toNat < 0x20 then none
      else (scanString rest).map fun (units, after) => (.char c :: units, after)
  | none :: rest => (scanString rest).map fun (units, after) => (.unreadable :: units, after)

/-- The characters of the units, where each high surrogate joins the low one after it. -/
def joinUnits : List StringUnit → Option (List Char)
  | [] => some []
  | .char c :: rest => (joinUnits rest).map (c :: ·)
  | .surrogate high :: .surrogate low :: rest =>
      if high < 0xDC00 && 0xDC00 ≤ low then
        (joinUnits rest).map
          (Char.ofNat (0x10000 + (high - 0xD800) * 0x400 + (low - 0xDC00)) :: ·)
      else none
  | .surrogate _ :: _ => none
  | .unreadable :: _ => none

/-- The digits at the head of the input, and the input after them. -/
def scanDigits : Symbols → List Nat × Symbols
  | [] => ([], [])
  | c :: rest =>
      match digitValue? c with
      | some d =>
          let (digits, after) := scanDigits rest
          (d :: digits, after)
      | none => ([], c :: rest)

/-- The digits after a decimal point, if there is a point; at least one must follow it. -/
def scanFraction (input : Symbols) : Option (List Nat × Symbols) :=
  match input with
  | some '.' :: rest =>
      match scanDigits rest with
      | ([], _) => none
      | (digits, after) => some (digits, after)
  | _ => some ([], input)

/-- The digits of an exponent, of which there must be one, after its sign. -/
def scanExponentDigits (down : Bool) (input : Symbols)
    : Option (Option (Bool × List Nat) × Symbols) :=
  match scanDigits input with
  | ([], _) => none
  | (digits, after) => some (some (down, digits), after)

/-- An exponent, if there is one: whether it is negative, and its digits. -/
def scanExponent (input : Symbols) : Option (Option (Bool × List Nat) × Symbols) :=
  match input with
  | some c :: rest =>
      if c == 'e' || c == 'E' then
        match rest with
        | some '+' :: digits => scanExponentDigits false digits
        | some '-' :: digits => scanExponentDigits true digits
        | _ => scanExponentDigits false rest
      else some (none, input)
  | _ => some (none, input)

/-- The number that digits write in base ten. -/
def ofDigits (digits : List Nat) : Nat := digits.foldl (fun n d => n * 10 + d) 0

/-- The number of a numeral. Integers that fit 64 bits stay integers; minus zero, larger
integers and all numerals with a fraction or an exponent are floating point numbers.
-/
def numberOf? (negative : Bool) (whole fraction : List Nat)
    (exponent : Option (Bool × List Nat))
    : Option Number :=
  let float := (Decimal.read? negative whole fraction exponent).map Number.float
  if fraction.isEmpty && exponent.isNone then
    let n := ofDigits whole
    if negative then
      if 0 < n && n ≤ 0x8000000000000000 then some (.int (-n)) else float
    else if n ≤ 0xFFFFFFFFFFFFFFFF then some (.int n) else float
  else float

/-- The digits before the point: a zero stands alone. -/
def scanWhole (input : Symbols) : Option (List Nat × Symbols) :=
  match scanDigits input with
  | ([], _) => none
  | ([d], after) => some ([d], after)
  | (d :: digits, after) => if d == 0 then none else some (d :: digits, after)

/-- Reads a numeral, after its minus sign if it has one. -/
def scanNumber (negative : Bool) (input : Symbols) : Option (Token × Symbols) := do
  let (whole, afterWhole) ← scanWhole input
  let (fraction, afterFraction) ← scanFraction afterWhole
  let (exponent, after) ← scanExponent afterFraction
  some (.number (numberOf? negative whole fraction exponent), after)

/-- Reads one token from input that starts with its first character. -/
def scanToken (c : Char) (rest : Symbols) : Option (Token × Symbols) :=
  match c, rest with
  | '[', _ => some (.openArray, rest)
  | ']', _ => some (.closeArray, rest)
  | '\x7b', _ => some (.openObject, rest)
  | '\x7d', _ => some (.closeObject, rest)
  | ',', _ => some (.comma, rest)
  | ':', _ => some (.colon, rest)
  | '"', _ =>
      (scanString rest).map fun (units, after) =>
        (.text ((joinUnits units).map String.ofList), after)
  | 'n', some 'u' :: some 'l' :: some 'l' :: after => some (.null, after)
  | 't', some 'r' :: some 'u' :: some 'e' :: after => some (.bool true, after)
  | 'f', some 'a' :: some 'l' :: some 's' :: some 'e' :: after => some (.bool false, after)
  | '-', _ => scanNumber true rest
  | _, _ => scanNumber false (some c :: rest)

/-- The tokens of the input, for as many steps as `fuel` allows. -/
def tokensFrom : Nat → Symbols → Option (List Token)
  | _, [] => some []
  | 0, _ :: _ => none
  | fuel + 1, some c :: rest =>
      if isSpace c then tokensFrom fuel rest
      else
        match scanToken c rest with
        | some (token, after) => (tokensFrom fuel after).map (token :: ·)
        | none => none
  | _ + 1, none :: _ => none

/-- The tokens of the input. Each step takes at least one character. -/
def tokens (input : Symbols) : Option (List Token) := tokensFrom input.length input

end FleetOps.Json
