import FleetOps.Json.Printer
import FleetOps.Json.Token

/-! The tokens of JSON text that was written. Strings are read as they were, whatever they hold, and
so are integers that a reader keeps as such. Each token takes something of the input, so that the
fuel of the reader never runs out.
-/

namespace FleetOps.Json

/-- Characters as input that is all readable. -/
abbrev symbolsOf (cs : List Char) : Symbols := cs.map some

-----------------------------------------------------------------------------------------
-- Strings
-----------------------------------------------------------------------------------------

section

variable (rest : Symbols)

/-- A character that is escaped by its code is read from it. -/
theorem hexValue?_hexChar {n : Nat} (digit : n < 16) : hexValue? (some (hexChar n)) = some n := by
  revert digit
  revert n
  decide

/-- A character that needs no escape is scanned as it is. -/
theorem scanString_plain {c : Char} (quote : c ≠ '"') (backslash : c ≠ '\\')
    (printable : ¬ c.toNat < 0x20)
    : scanString (some c :: rest)
      = (scanString rest).map fun (units, after) => (.char c :: units, after) := by
  rw [scanString]
  · exact if_neg printable
  · exact quote
  · exact fun _ _ _ _ _ _ => backslash
  · exact fun _ _ _ => backslash
  · exact backslash

/-- A control character is read from its code. -/
theorem scanString_control {c : Char} (control : c.toNat < 0x20)
    : scanString
        (symbolsOf ['\\', 'u', '0', '0', hexChar (c.toNat / 16), hexChar (c.toNat % 16)] ++ rest)
      = (scanString rest).map fun (units, after) => (.char c :: units, after) := by
  have zero : hexValue? (some '0') = some 0 := rfl
  have high := hexValue?_hexChar (n := c.toNat / 16) (by omega)
  have low := hexValue?_hexChar (n := c.toNat % 16) (by omega)
  have code : ((0 * 16 + 0) * 16 + c.toNat / 16) * 16 + c.toNat % 16 = c.toNat := by omega
  have unit : StringUnit.ofCode c.toNat = .char c := by
    have small : ¬ 0xD800 ≤ c.toNat := by omega
    simp [StringUnit.ofCode, small]
  simp only [symbolsOf, List.map_cons, List.map_nil, List.cons_append, List.nil_append,
    scanString, zero, high, low, code, unit]

/-- Each character of a string is read as it was, by cases on how it stands there. -/
theorem scanString_stringChar (c : Char)
    : scanString (symbolsOf (stringChar c) ++ rest)
      = (scanString rest).map fun (units, after) => (.char c :: units, after) := by
  have coded {n : Nat} (same : (c.toNat == n) = true) : c = Char.ofNat n := by
    rw [← beq_iff_eq.mp same, Char.ofNat_toNat]
  by_cases quote : c = '"'
  · subst quote
    rfl
  by_cases backslash : c = '\\'
  · subst backslash
    rfl
  unfold stringChar
  rw [if_neg (by simpa using quote), if_neg (by simpa using backslash)]
  split
  next newline =>
    obtain rfl : c = '\n' := beq_iff_eq.mp newline
    rfl
  split
  next return_ =>
    obtain rfl : c = '\r' := beq_iff_eq.mp return_
    rfl
  split
  next tab =>
    obtain rfl : c = '\t' := beq_iff_eq.mp tab
    rfl
  split
  next backspace =>
    obtain rfl := coded backspace
    rfl
  split
  next feed =>
    obtain rfl := coded feed
    rfl
  split
  next control => exact scanString_control rest control
  next printable => exact scanString_plain rest quote backslash printable

/-- A text is read as the characters that it has, by induction over them. -/
theorem scanString_written (cs : List Char)
    : scanString (symbolsOf (cs.flatMap stringChar ++ ['"']) ++ rest)
      = some (cs.map .char, rest) := by
  induction cs with
  | nil => rfl
  | cons c cs ih =>
      rw [List.flatMap_cons, List.append_assoc, symbolsOf, List.map_append, List.append_assoc]
      refine (scanString_stringChar _ c).trans ?_
      rw [ih]
      rfl

end

/-- The characters of a text need not be joined. -/
theorem joinUnits_chars (cs : List Char) : joinUnits (cs.map .char) = some cs := by
  induction cs with
  | nil => rfl
  | cons c cs ih => simp [joinUnits, ih]

-----------------------------------------------------------------------------------------
-- Integers
-----------------------------------------------------------------------------------------

/-- The digits of a number, from those of a tenth of it. -/
theorem digitsOf_of_lt {n : Nat} (small : n < 10) : Decimal.digitsOf n = [n] := by
  rw [Decimal.digitsOf, Nat.toDigits_of_lt_base small]
  revert small
  revert n
  decide

/-- The last digit of a large number is what is left over of ten. -/
theorem digitsOf_of_le {n : Nat} (large : 10 ≤ n)
    : Decimal.digitsOf n = Decimal.digitsOf (n / 10) ++ [n % 10] := by
  have last := digitsOf_of_lt (Nat.mod_lt n (by decide : 0 < 10))
  rw [Decimal.digitsOf, Nat.toDigits_of_lt_base (Nat.mod_lt n (by decide))] at last
  rw [Decimal.digitsOf, Nat.toDigits_of_base_le (by decide) large, List.map_append, last]
  rfl

/-- The digits of a number are read as the number. -/
theorem ofDigits_digitsOf (n : Nat) : ofDigits (Decimal.digitsOf n) = n := by
  induction n using Nat.strongRecOn with
  | ind n ih =>
      rcases Nat.lt_or_ge n 10 with small | large
      · rw [digitsOf_of_lt small]
        simp [ofDigits]
      · have tenth := ih (n / 10) (by omega)
        rw [digitsOf_of_le large]
        simp only [ofDigits, List.foldl_append, List.foldl_cons, List.foldl_nil] at tenth ⊢
        rw [tenth]
        omega

/-- The first digit of a number that is not zero is not zero, by induction on the number. -/
theorem digitsOf_leading {n : Nat} (positive : 0 < n)
    : ∃ d rest, Decimal.digitsOf n = d :: rest ∧ d ≠ 0 := by
  induction n using Nat.strongRecOn with
  | ind n ih =>
      rcases Nat.lt_or_ge n 10 with small | large
      · exact ⟨n, [], digitsOf_of_lt small, by omega⟩
      · obtain ⟨d, rest, digits, nonzero⟩ := ih (n / 10) (by omega) (by omega)
        rw [digitsOf_of_le large, digits]
        exact ⟨d, rest ++ [n % 10], rfl, nonzero⟩

/-- A numeral does not go on here. -/
def EndsNumeral (rest : Symbols) : Prop :=
  ∀ c, rest.head? = some (some c) → Text.digit? c = none ∧ c ≠ '.' ∧ c ≠ 'e' ∧ c ≠ 'E'

section

variable {rest : Symbols} (ends : EndsNumeral rest)

include ends

/-- Where no digit follows none is scanned. -/
theorem scanDigits_end : scanDigits rest = ([], rest) := by
  rcases rest with _ | ⟨_ | c, rest⟩
  · rfl
  · rfl
  · simp [scanDigits, digitValue?, (ends c rfl).1]

/-- Digits that were written are scanned as they are. -/
theorem scanDigits_written {cs : List Char} (digits : ∀ c ∈ cs, c.isDigit = true)
    : scanDigits (symbolsOf cs ++ rest) = (cs.map fun c => c.toNat - '0'.toNat, rest) := by
  induction cs with
  | nil => exact scanDigits_end ends
  | cons c cs ih =>
      have value : digitValue? (some c) = some (c.toNat - '0'.toNat) := by
        have first := digits c List.mem_cons_self
        rw [Char.isDigit, Bool.and_eq_true, decide_eq_true_eq, decide_eq_true_eq] at first
        exact if_pos (by simpa [UInt32.le_iff_toNat_le] using first)
      have later := ih fun c member => digits c (List.mem_cons_of_mem _ member)
      simp [scanDigits, value, later]

/-- Where no point follows there is no fraction. -/
theorem scanFraction_end : scanFraction rest = some ([], rest) := by
  unfold scanFraction
  split
  next after => exact absurd rfl (ends '.' rfl).2.1
  next => rfl

/-- Where no letter for it follows there is no exponent. -/
theorem scanExponent_end : scanExponent rest = some (none, rest) := by
  unfold scanExponent
  split
  next c after =>
    obtain ⟨-, -, small, large⟩ := ends c rfl
    rw [if_neg (by simp [small, large])]
  next => rfl

/-- The digits of a number are read as its numeral. -/
theorem scanNumber_written (negative : Bool) (n : Nat)
    : scanNumber negative (symbolsOf (Nat.toDigits 10 n) ++ rest)
      = some (.number (numberOf? negative (Decimal.digitsOf n) [] none), rest) := by
  have digits : scanDigits (symbolsOf (Nat.toDigits 10 n) ++ rest) = (Decimal.digitsOf n, rest) :=
    scanDigits_written ends fun c member =>
      Nat.isDigit_of_mem_toDigits (by decide) (by decide) member
  have whole : scanWhole (symbolsOf (Nat.toDigits 10 n) ++ rest)
      = some (Decimal.digitsOf n, rest) := by
    unfold scanWhole
    rw [digits]
    rcases Nat.eq_zero_or_pos n with zero | positive
    · rw [zero, digitsOf_of_lt (by decide)]
    · obtain ⟨d, later, several, nonzero⟩ := digitsOf_leading positive
      rw [several]
      cases later with
      | nil => rfl
      | cons e later => simp [nonzero]
  simp [scanNumber, whole, scanFraction_end ends, scanExponent_end ends]

end

-----------------------------------------------------------------------------------------
-- Tokens one after another
-----------------------------------------------------------------------------------------

/-- What follows a string comes after all that was read of it, by induction along the reader. -/
theorem scanString_shortens {input after : Symbols} {units : List StringUnit}
    (scanned : scanString input = some (units, after))
    : after.length ≤ input.length := by
  have extended {rest after : Symbols} {unit : StringUnit} {units : List StringUnit}
      (more : (scanString rest).map (fun (units, after) => (unit :: units, after))
        = some (units, after))
      : ∃ earlier, scanString rest = some (earlier, after) := by
    obtain ⟨⟨earlier, later⟩, scanned, same⟩ := Option.map_eq_some_iff.mp more
    cases same
    exact ⟨earlier, scanned⟩
  fun_induction scanString input generalizing units with
  | case1 => cases scanned
  | case2 rest =>
      cases scanned
      exact Nat.le_succ _
  | case3 a b c d rest _ _ _ _ _ _ _ _ ih =>
      obtain ⟨earlier, scanned⟩ := extended scanned
      have shorter := ih scanned
      simp only [List.length_cons]
      omega
  | case4 => cases scanned
  | case5 c rest _ escaped _ ih =>
      obtain ⟨earlier, scanned⟩ := extended scanned
      have shorter := ih scanned
      simp only [List.length_cons]
      omega
  | case6 => cases scanned
  | case7 => cases scanned
  | case8 => cases scanned
  | case9 c rest _ _ _ _ _ ih =>
      obtain ⟨earlier, scanned⟩ := extended scanned
      exact Nat.le_succ_of_le (ih scanned)
  | case10 rest ih =>
      obtain ⟨earlier, scanned⟩ := extended scanned
      exact Nat.le_succ_of_le (ih scanned)

/-- Each digit that is scanned is taken off the input. -/
theorem scanDigits_shortens {input after : Symbols} {digits : List Nat}
    (scanned : scanDigits input = (digits, after))
    : after.length + digits.length = input.length := by
  fun_induction scanDigits input generalizing digits with
  | case1 =>
      cases scanned
      rfl
  | case2 c rest d value digits later found ih =>
      cases scanned
      have shorter := ih found
      simp only [List.length_cons]
      omega
  | case3 c rest =>
      cases scanned
      rfl

/-- Scanning the whole part takes something off the input. -/
theorem scanWhole_shortens {input after : Symbols} {digits : List Nat}
    (scanned : scanWhole input = some (digits, after))
    : after.length < input.length := by
  unfold scanWhole at scanned
  split at scanned
  · cases scanned
  next d later found =>
    cases scanned
    have shorter := scanDigits_shortens found
    simp only [List.length_cons] at shorter
    omega
  next d rest later _ found =>
    have shorter := scanDigits_shortens found
    simp only [List.length_cons] at shorter
    split at scanned
    · cases scanned
    · cases scanned
      omega

/-- Scanning the fraction adds nothing to the input. -/
theorem scanFraction_shortens {input after : Symbols} {digits : List Nat}
    (scanned : scanFraction input = some (digits, after))
    : after.length ≤ input.length := by
  unfold scanFraction at scanned
  split at scanned
  next rest =>
    split at scanned
    · cases scanned
    next digits later _ found =>
      cases scanned
      have shorter := scanDigits_shortens found
      simp only [List.length_cons]
      omega
  next =>
    cases scanned
    exact Nat.le_refl _

/-- Scanning the digits of the exponent adds nothing to the input. -/
theorem scanExponentDigits_shortens {down : Bool} {input after : Symbols}
    {exponent : Option (Bool × List Nat)}
    (scanned : scanExponentDigits down input = some (exponent, after))
    : after.length ≤ input.length := by
  unfold scanExponentDigits at scanned
  split at scanned
  · cases scanned
  next digits later _ found =>
    cases scanned
    have shorter := scanDigits_shortens found
    omega

/-- Scanning the exponent adds nothing to the input. -/
theorem scanExponent_shortens {input after : Symbols} {exponent : Option (Bool × List Nat)}
    (scanned : scanExponent input = some (exponent, after))
    : after.length ≤ input.length := by
  unfold scanExponent at scanned
  repeat' split at scanned
  · have shorter := scanExponentDigits_shortens scanned
    simp only [List.length_cons]
    omega
  · have shorter := scanExponentDigits_shortens scanned
    simp only [List.length_cons]
    omega
  · exact Nat.le_succ_of_le (scanExponentDigits_shortens scanned)
  · cases scanned
    exact Nat.le_refl _
  · cases scanned
    exact Nat.le_refl _

/-- Scanning a number takes something off the input. -/
theorem scanNumber_shortens {negative : Bool} {input after : Symbols} {token : Token}
    (scanned : scanNumber negative input = some (token, after))
    : after.length < input.length := by
  simp only [scanNumber, Option.bind_eq_bind, Option.bind_eq_some_iff] at scanned
  obtain ⟨⟨whole, afterWhole⟩, first, ⟨fraction, afterFraction⟩, second, ⟨exponent, last⟩, third,
    same⟩ := scanned
  cases same
  dsimp only at second third ⊢
  have shorter := scanWhole_shortens first
  have further := scanFraction_shortens second
  have furthest := scanExponent_shortens third
  omega

/-- Every token takes at least one character. -/
theorem scanToken_shortens {c : Char} {rest after : Symbols} {token : Token}
    (scanned : scanToken c rest = some (token, after))
    : after.length ≤ rest.length := by
  unfold scanToken at scanned
  split at scanned
  case h_7 =>
    obtain ⟨⟨units, later⟩, found, same⟩ := Option.map_eq_some_iff.mp scanned
    cases same
    exact scanString_shortens found
  case h_11 => exact Nat.le_of_lt (scanNumber_shortens scanned)
  case h_12 => exact Nat.le_of_lt_succ (scanNumber_shortens scanned)
  -- The words are the only other tokens of more than one character.
  case h_8 | h_9 | h_10 =>
    cases scanned
    simp only [List.length_cons]
    omega
  all_goals
    cases scanned
    exact Nat.le_refl _

/-- More fuel than there are characters makes no difference, by induction on the fuel. -/
theorem tokensFrom_eq {fuel : Nat} {input : Symbols} (enough : input.length ≤ fuel)
    : tokensFrom fuel input = tokens input := by
  unfold tokens
  generalize known : input.length = least at enough
  have bounded := Nat.le_of_eq known
  clear known
  induction least generalizing fuel input with
  | zero =>
      rw [List.length_eq_zero_iff.mp (Nat.le_zero.mp bounded)]
      simp [tokensFrom]
  | succ least ih =>
      obtain ⟨fuel, rfl⟩ : ∃ more, fuel = more + 1 := ⟨fuel - 1, by omega⟩
      rcases input with _ | ⟨_ | c, rest⟩
      · simp [tokensFrom]
      · rfl
      · rw [List.length_cons] at bounded
        have shorter : rest.length ≤ least := by omega
        unfold tokensFrom
        split
        · exact ih (by omega) shorter
        · split
          next token after scanned =>
            have taken := scanToken_shortens scanned
            rw [ih (by omega) (by omega : after.length ≤ least)]
          next => rfl

/-- There are no tokens in no input. -/
theorem tokens_nil : tokens [] = some [] := rfl

/-- The first token of the input, and those after it. -/
theorem tokens_cons {c : Char} {rest after : Symbols} {token : Token} (solid : isSpace c = false)
    (scanned : scanToken c rest = some (token, after))
    : tokens (some c :: rest) = (tokens after).map (token :: ·) := by
  have taken := scanToken_shortens scanned
  rw [tokens, List.length_cons, tokensFrom, if_neg (by simp [solid]), scanned]
  dsimp only
  rw [tokensFrom_eq taken]

/-- A text that was written is one token, whatever follows. -/
theorem tokens_string (s : String) (rest : Symbols)
    : tokens (symbolsOf (stringChars s) ++ rest) = (tokens rest).map (.text (some s) :: ·) := by
  have scanned := scanString_written rest s.toList
  have token : scanToken '"' (symbolsOf (s.toList.flatMap stringChar ++ ['"']) ++ rest)
      = some (.text (some s), rest) := by
    simp only [scanToken, scanned, Option.map_some, joinUnits_chars, String.ofList_toList]
  exact tokens_cons rfl token

/-- No digit is a space. -/
theorem isSpace_digit {c : Char} (digit : c.isDigit = true) : isSpace c = false := by
  have other {d : Char} (different : d.isDigit = false) : (c == d) = false := by
    rw [beq_eq_false_iff_ne]
    intro same
    rw [same, different] at digit
    cases digit
  unfold isSpace
  rw [other rfl, other rfl, other rfl, other rfl]
  rfl

/-- A digit begins nothing but a numeral. -/
theorem scanToken_digit {c : Char} (digit : c.isDigit = true) (rest : Symbols)
    : scanToken c rest = scanNumber false (some c :: rest) := by
  unfold scanToken
  split
  case h_12 => rfl
  all_goals exact absurd digit (by decide)

/-- The integers that are read as such: those of 64 bits, with a sign or without one. -/
def FitsWord (n : Int) : Prop := -0x8000000000000000 ≤ n ∧ n ≤ 0xFFFFFFFFFFFFFFFF

/-- An integer that was written is one token, if its numeral ends there. -/
theorem tokens_integer {n : Int} (fits : FitsWord n) {rest : Symbols} (ends : EndsNumeral rest)
    : tokens (symbolsOf (integerChars n) ++ rest)
      = (tokens rest).map (.number (some (.int n)) :: ·) := by
  obtain ⟨least, greatest⟩ := fits
  unfold integerChars
  split
  next negative =>
    obtain ⟨m, rfl⟩ : ∃ m : Nat, n = -m := ⟨n.natAbs, by omega⟩
    have number : numberOf? true (Decimal.digitsOf m) [] none = some (.int (-m)) := by
      have bounds : 0 < m ∧ m ≤ 0x8000000000000000 := by omega
      simp [numberOf?, ofDigits_digitsOf, bounds]
    have scanned := scanNumber_written ends true m
    rw [number] at scanned
    rw [Int.natAbs_neg, Int.natAbs_natCast]
    exact tokens_cons rfl scanned
  next natural =>
    obtain ⟨m, rfl⟩ : ∃ m : Nat, n = m := ⟨n.natAbs, by omega⟩
    have number : numberOf? false (Decimal.digitsOf m) [] none = some (.int m) := by
      have bound : m ≤ 0xFFFFFFFFFFFFFFFF := by omega
      simp [numberOf?, ofDigits_digitsOf, bound]
    have scanned := scanNumber_written ends false m
    have digits : ∀ c ∈ Nat.toDigits 10 m, c.isDigit = true := fun c member =>
      Nat.isDigit_of_mem_toDigits (by decide) (by decide) member
    rw [number] at scanned
    rw [Int.natAbs_natCast]
    generalize Nat.toDigits 10 m = written at scanned digits
    cases written with
    | nil => exact absurd (scanNumber_shortens scanned) (Nat.lt_irrefl _)
    | cons c cs =>
        have digit := digits c List.mem_cons_self
        refine tokens_cons (isSpace_digit digit) ?_
        rw [scanToken_digit digit]
        exact scanned

-----------------------------------------------------------------------------------------
-- Which numbers are integers
-----------------------------------------------------------------------------------------

/-- A numeral is an integer if it has neither a fraction nor an exponent, is not minus zero, and
fits.
-/
theorem numberOf?_eq_int_iff {negative : Bool} {whole fraction : List Nat}
    {exponent : Option (Bool × List Nat)} {n : Int}
    : numberOf? negative whole fraction exponent = some (.int n)
      ↔ fraction = []
        ∧ exponent = none
        ∧ n = (if negative then -(ofDigits whole : Int) else ofDigits whole)
        ∧ FitsWord n
        ∧ ¬ (negative = true ∧ n = 0) := by
  have float (bits : Option UInt64) : bits.map Number.float ≠ some (.int n) := by
    cases bits <;> simp
  unfold numberOf? FitsWord
  cases fraction with
  | cons d fraction => simp [float]
  | nil =>
      cases exponent with
      | some exponent => simp [float]
      | none =>
          simp only [List.isEmpty_nil, Option.isNone_none, Bool.and_self, if_true, true_and]
          cases negative with
          | true =>
              simp only [if_true, Bool.and_eq_true, decide_eq_true_eq, true_and]
              split
              next small =>
                simp only [Option.some.injEq, Number.int.injEq]
                omega
              next large =>
                refine iff_of_false (float _) ?_
                omega
          | false =>
              simp only [Bool.false_eq_true, if_false, false_and, not_false_eq_true, and_true]
              split
              next small =>
                simp only [Option.some.injEq, Number.int.injEq]
                omega
              next large =>
                refine iff_of_false (float _) ?_
                omega

/-- Something holds of the number if the token is one. -/
def Token.NumberIs (among : Option Number → Prop) (token : Token) : Prop :=
  ∀ number, token = .number number → among number

/-- The number fits if it is an integer. -/
def IntegerFits (number : Option Number) : Prop := ∀ n, number = some (.int n) → FitsWord n

/-- An integer that is scanned fits. -/
theorem scanNumber_fits {negative : Bool} {input after : Symbols} {token : Token}
    (scanned : scanNumber negative input = some (token, after))
    : token.NumberIs IntegerFits := by
  simp only [scanNumber, Option.bind_eq_bind, Option.bind_eq_some_iff] at scanned
  obtain ⟨⟨whole, _⟩, -, ⟨fraction, _⟩, -, ⟨exponent, _⟩, -, same⟩ := scanned
  cases same
  intro number same n integer
  cases same
  exact (numberOf?_eq_int_iff.mp integer).2.2.2.1

/-- An integer that begins with some character fits when it is scanned. -/
theorem scanToken_fits {c : Char} {rest after : Symbols} {token : Token}
    (scanned : scanToken c rest = some (token, after))
    : token.NumberIs IntegerFits := by
  unfold scanToken at scanned
  split at scanned
  case h_7 =>
    obtain ⟨⟨units, later⟩, found, same⟩ := Option.map_eq_some_iff.mp scanned
    cases same
    exact nofun
  case h_11 | h_12 => exact scanNumber_fits scanned
  all_goals
    cases scanned
    exact nofun

/-- The integers of all tokens fit, by induction on the fuel. -/
theorem tokensFrom_fit {fuel : Nat} {input : Symbols} {read : List Token}
    (tokens : tokensFrom fuel input = some read)
    : ∀ token ∈ read, token.NumberIs IntegerFits := by
  induction fuel generalizing input read with
  | zero =>
      cases input with
      | nil =>
          cases tokens
          nofun
      | cons symbol rest => cases tokens
  | succ fuel ih =>
      rcases input with _ | ⟨_ | c, rest⟩
      · cases tokens
        nofun
      · cases tokens
      · rw [tokensFrom] at tokens
        split at tokens
        · exact ih tokens
        · split at tokens
          next token after scanned =>
            obtain ⟨later, more, rfl⟩ := Option.map_eq_some_iff.mp tokens
            exact List.forall_mem_cons.mpr ⟨scanToken_fits scanned, ih more⟩
          next => cases tokens

/-- All integers among the tokens fit. -/
theorem tokens_fit {input : Symbols} {read : List Token} (all : tokens input = some read)
    : ∀ token ∈ read, token.NumberIs IntegerFits :=
  tokensFrom_fit all

end FleetOps.Json
