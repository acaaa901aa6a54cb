import FleetOps.Text.Numeral

/-! What numerals write. A text is read as a number exactly if it writes that number and the number
is within the limit; the zeros at the front do not count.
-/

namespace FleetOps.Text

/-- The text is a numeral of a number: one or more ASCII digits, with or without a plus sign before
them, that write the number in base ten.
-/
def IsNumeralOf (n : Nat) (text : String) : Prop :=
  ∃ digits : List Char,
    (text.toList = digits ∨ text.toList = '+' :: digits)
    ∧ digits ≠ []
    ∧ (∀ c ∈ digits, c.isDigit = true)
    ∧ Nat.ofDigitChars 10 digits 0 = n

-----------------------------------------------------------------------------------------
-- Digits
-----------------------------------------------------------------------------------------

/-- A character is read as a digit exactly if it is one. -/
theorem digit?_eq (c : Char)
    : digit? c = if c.isDigit = true then some (c.toNat - '0'.toNat) else none := by
  have same : ('0'.toNat ≤ c.toNat ∧ c.toNat ≤ '9'.toNat) ↔ c.isDigit = true := by
    rw [Char.isDigit, Bool.and_eq_true, decide_eq_true_eq, decide_eq_true_eq]
    exact Iff.rfl
  simp only [digit?, Bool.and_eq_true, decide_eq_true_eq, same]

/-- More digits make for no smaller number, by induction on them. -/
theorem le_ofDigitChars (digits : List Char) (start : Nat)
    : start ≤ Nat.ofDigitChars 10 digits start := by
  induction digits generalizing start with
  | nil => exact Nat.le_refl start
  | cons c rest ih =>
      rw [Nat.ofDigitChars_cons]
      have later := ih (10 * start + (c.toNat - '0'.toNat))
      omega

/-- Digits are read on from a number to the number that they write after it, if that is within the
limit, by induction on them.
-/
theorem foldlM_extendNumber_eq_ok_iff {limit start n : Nat} {excess : NumeralFault}
    {digits : List Char} (small : start ≤ limit)
    : digits.foldlM (extendNumber limit excess) start = .ok n
      ↔ (∀ c ∈ digits, c.isDigit = true)
        ∧ Nat.ofDigitChars 10 digits start = n
        ∧ n ≤ limit := by
  induction digits generalizing start with
  | nil =>
      simp only [List.foldlM_nil, List.not_mem_nil, false_implies, implies_true, true_and,
        Nat.ofDigitChars_nil]
      constructor
      · rintro ⟨⟩
        exact ⟨rfl, small⟩
      · rintro ⟨rfl, -⟩
        rfl
  | cons c rest ih =>
      rw [List.foldlM_cons, Nat.ofDigitChars_cons, List.forall_mem_cons, extendNumber, digit?_eq,
        Nat.mul_comm 10 start]
      cases digit : c.isDigit with
      | false => simp [bind, Except.bind]
      | true =>
          by_cases within : start * 10 + (c.toNat - '0'.toNat) ≤ limit
          · simp only [if_true, if_pos within, true_and]
            exact ih within
          · simp only [if_true, if_neg within, true_and]
            constructor
            · rintro ⟨⟩
            · rintro ⟨-, same, bounded⟩
              have grown := le_ofDigitChars rest (start * 10 + (c.toNat - '0'.toNat))
              omega

/-- Digits are read as their number exactly if that is within the limit. -/
theorem digitsWithin_eq_ok_iff {limit n : Nat} {excess : NumeralFault} {digits : List Char}
    : digitsWithin limit excess digits = .ok n
      ↔ (digits ≠ [] ∧ (∀ c ∈ digits, c.isDigit = true) ∧ Nat.ofDigitChars 10 digits 0 = n)
        ∧ n ≤ limit := by
  cases digits with
  | nil => simp [digitsWithin]
  | cons c rest =>
      rw [digitsWithin, foldlM_extendNumber_eq_ok_iff (Nat.zero_le limit)]
      · simp [and_assoc]
      · simp

-----------------------------------------------------------------------------------------
-- Numerals
-----------------------------------------------------------------------------------------

/-- A text that begins with a plus sign is a numeral if what follows is digits. -/
theorem isNumeralOf_plus {n : Nat} {text : String} {digits : List Char}
    (plus : text.toList = '+' :: digits)
    : IsNumeralOf n text
      ↔ digits ≠ []
        ∧ (∀ c ∈ digits, c.isDigit = true)
        ∧ Nat.ofDigitChars 10 digits 0 = n := by
  constructor
  · rintro ⟨written, bare | signed, nonempty, digital, value⟩
    · rw [plus] at bare
      have sign := digital '+' (bare ▸ List.mem_cons_self)
      cases sign
    · rw [plus] at signed
      obtain rfl := (List.cons.inj signed).2
      exact ⟨nonempty, digital, value⟩
  · rintro ⟨nonempty, digital, value⟩
    exact ⟨digits, .inr plus, nonempty, digital, value⟩

/-- A text without a plus sign at its front is a numeral if it is digits. -/
theorem isNumeralOf_bare {n : Nat} {text : String}
    (bare : ∀ digits, text.toList ≠ '+' :: digits)
    : IsNumeralOf n text
      ↔ text.toList ≠ []
        ∧ (∀ c ∈ text.toList, c.isDigit = true)
        ∧ Nat.ofDigitChars 10 text.toList 0 = n := by
  constructor
  · rintro ⟨digits, rfl | signed, written⟩
    · exact written
    · exact absurd signed (bare digits)
  · intro written
    exact ⟨text.toList, .inl rfl, written⟩

/-- A natural number is read exactly from its numerals, by cases on the first character. -/
theorem naturalWithin_eq_ok_iff {limit n : Nat} {text : String}
    : naturalWithin limit text = .ok n ↔ IsNumeralOf n text ∧ n ≤ limit := by
  unfold naturalWithin
  split
  next empty =>
    have bare : ∀ digits, text.toList ≠ '+' :: digits := by simp [empty]
    rw [isNumeralOf_bare bare, empty]
    simp
  next digits plus => rw [isNumeralOf_plus plus, digitsWithin_eq_ok_iff]
  next bare => rw [isNumeralOf_bare bare, digitsWithin_eq_ok_iff]

/-- A text is read as a number exactly if it is a numeral of it within the limit. -/
theorem toOption_naturalWithin_eq_some_iff {limit n : Nat} {text : String}
    : (naturalWithin limit text).toOption = some n ↔ IsNumeralOf n text ∧ n ≤ limit := by
  rw [← naturalWithin_eq_ok_iff]
  cases naturalWithin limit text <;> simp [Except.toOption]

/-- A number that is also checked for something is read exactly from its numerals, if it passes. -/
theorem checkedNatural_eq_some_iff {limit n : Nat} {text : String} {passes : Nat → Prop}
    [DecidablePred passes]
    : (match naturalWithin limit text with
        | .ok m => if passes m then some m else none
        | .error _ => none)
        = some n
      ↔ IsNumeralOf n text ∧ n ≤ limit ∧ passes n := by
  rw [← and_assoc, ← naturalWithin_eq_ok_iff]
  cases naturalWithin limit text with
  | error fault => simp
  | ok m =>
      simp only [Option.ite_none_right_eq_some, Option.some.injEq, Except.ok.injEq]
      constructor
      · rintro ⟨passed, rfl⟩
        exact ⟨rfl, passed⟩
      · rintro ⟨rfl, passed⟩
        exact ⟨passed, rfl⟩

/-- A number above zero is read as an integer exactly from its numerals: what comes after a minus
sign is not above zero.
-/
theorem integerWithin_eq_ok_iff {limit n : Nat} {text : String} (positive : 1 ≤ n)
    : integerWithin limit text = .ok (n : Int) ↔ IsNumeralOf n text ∧ n ≤ limit := by
  have natural (digits : List Char)
      : (digitsWithin limit .tooLarge digits).map Int.ofNat = .ok (n : Int)
        ↔ digitsWithin limit .tooLarge digits = .ok n := by
    cases digitsWithin limit .tooLarge digits with
    | error fault => simp [Except.map]
    | ok m =>
        rw [Except.map, Except.ok.injEq, Except.ok.injEq]
        exact Int.ofNat_inj
  unfold integerWithin
  split
  next empty =>
    have bare : ∀ digits, text.toList ≠ '+' :: digits := by simp [empty]
    rw [isNumeralOf_bare bare, empty]
    simp
  next digits minus =>
    have bare : ∀ digits, text.toList ≠ '+' :: digits := by simp [minus]
    rw [isNumeralOf_bare bare, minus]
    constructor
    · intro read
      cases within : digitsWithin (limit + 1) .tooSmall digits with
      | error fault =>
          rw [within] at read
          cases read
      | ok m =>
          rw [within] at read
          have negative : -(m : Int) = n := Except.ok.inj read
          omega
    · rintro ⟨⟨-, digital, -⟩, -⟩
      have sign := digital '-' List.mem_cons_self
      cases sign
  next digits plus =>
    rw [natural, isNumeralOf_plus plus, digitsWithin_eq_ok_iff]
  next bare => rw [natural, isNumeralOf_bare bare, digitsWithin_eq_ok_iff]

/-- A text is a numeral of one number at most, as it is read as one. -/
theorem IsNumeralOf.unique {n m : Nat} {text : String} (first : IsNumeralOf n text)
    (second : IsNumeralOf m text)
    : n = m := by
  have read := naturalWithin_eq_ok_iff.mpr ⟨first, Nat.le_max_left n m⟩
  have again := naturalWithin_eq_ok_iff.mpr ⟨second, Nat.le_max_right n m⟩
  exact Except.ok.inj (read.symm.trans again)

/-- A numeral has a digit. -/
theorem IsNumeralOf.isEmpty {n : Nat} {text : String} (numeral : IsNumeralOf n text)
    : text.isEmpty = false := by
  obtain ⟨digits, bare | signed, nonempty, -⟩ := numeral
  · rw [← bare] at nonempty
    simpa using nonempty
  · rw [← Bool.not_eq_true, String.isEmpty_iff]
    rintro rfl
    cases signed

instance (n : Nat) (text : String) : Decidable (IsNumeralOf n text) :=
  decidable_of_iff ((naturalWithin n text).toOption = some n)
    (toOption_naturalWithin_eq_some_iff.trans (and_iff_left (Nat.le_refl n)))

end FleetOps.Text
