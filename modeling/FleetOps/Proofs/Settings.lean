import FleetOps.Proofs.Credentials
import FleetOps.Proofs.Text.Numeral
import FleetOps.Settings

/-! Time limits of commands, in seconds: what an environment sets for all of them, and what the text
of one request asks for. Neither is ever zero.
-/

namespace FleetOps

-----------------------------------------------------------------------------------------
-- What an environment sets
-----------------------------------------------------------------------------------------

/-- The time limit that an environment sets for commands: the number that its variable writes, if
that is above zero and has 64 bits, and thirty seconds if the variable writes no such number.
-/
inductive Environment.SetsLimit (environment : Environment) : Nat → Prop
  | told {text : String} {seconds : Nat} (known : environment.commandTimeout = some text)
    (numeral : Text.IsNumeralOf seconds text) (positive : 1 ≤ seconds)
    (small : seconds ≤ Text.word64Limit)
    : SetsLimit environment seconds
  | untold
    (unusable
      : ∀ text seconds,
          environment.commandTimeout = some text
          → Text.IsNumeralOf seconds text
          → seconds = 0 ∨ Text.word64Limit < seconds)
    : SetsLimit environment 30

namespace Settings

/-- A number of seconds is a numeral between one and the greatest that is read. -/
theorem seconds?_eq_some_iff {text : String} {n : Nat}
    : seconds? text = some n ↔ Text.IsNumeralOf n text ∧ 1 ≤ n ∧ n ≤ Text.word64Limit := by
  have read : seconds? text = some n
      ↔ Text.IsNumeralOf n text ∧ n ≤ Text.word64Limit ∧ 1 ≤ n :=
    Text.checkedNatural_eq_some_iff
  rw [read, and_comm (a := n ≤ Text.word64Limit)]

/-- The settings of an environment have the time limit that it sets, by cases on whether its
variable can be used.
-/
theorem setsLimit_iff {environment : Environment} {limit : Nat}
    : environment.SetsLimit limit ↔ limit = (ofEnvironment environment).commandTimeout := by
  have resolved : (ofEnvironment environment).commandTimeout
      = (environment.commandTimeout.bind seconds?).getD 30 := rfl
  rw [resolved]
  cases usable : environment.commandTimeout.bind seconds? with
  | none =>
      rw [Option.getD_none]
      have unusable : ∀ text seconds,
          environment.commandTimeout = some text
          → Text.IsNumeralOf seconds text
          → seconds = 0 ∨ Text.word64Limit < seconds := by
        intro text seconds known numeral
        by_contra within
        have read := seconds?_eq_some_iff.mpr ⟨numeral, by omega, by omega⟩
        rw [known, Option.bind_some, read] at usable
        cases usable
      constructor
      · intro sets
        cases sets with
        | told known numeral positive small =>
            have outside := unusable _ _ known numeral
            omega
        | untold => rfl
      · rintro rfl
        exact .untold unusable
  | some seconds =>
      obtain ⟨text, known, read⟩ := Option.bind_eq_some_iff.mp usable
      obtain ⟨numeral, positive, small⟩ := seconds?_eq_some_iff.mp read
      rw [Option.getD_some]
      constructor
      · intro sets
        cases sets with
        | told same other =>
            obtain rfl := Option.some.inj (known.symm.trans same)
            exact other.unique numeral
        | untold unusable =>
            have outside := unusable text seconds known numeral
            omega
      · rintro rfl
        exact .told known numeral positive small

end Settings

/-- An environment sets a time limit above zero that has 64 bits. -/
theorem Environment.SetsLimit.bounds {environment : Environment} {limit : Nat}
    (sets : environment.SetsLimit limit)
    : 1 ≤ limit ∧ limit ≤ Text.word64Limit := by
  cases sets with
  | told _ _ positive small => exact ⟨positive, small⟩
  | untold => decide

-----------------------------------------------------------------------------------------
-- What a request asks for
-----------------------------------------------------------------------------------------

/-- The time limit that the text of a request asks for: a blank text for the one that holds
otherwise, and any other for the number that it writes between its blanks, if that is above zero and
has 63 bits.
-/
inductive AsksForLimit (otherwise : Nat) (text : String) : Nat → Prop
  | blank (blank : Text.isBlankText text = true) : AsksForLimit otherwise text otherwise
  | numeral {seconds : Nat} (numeral : Text.IsNumeralOf seconds (Text.trim text))
    (positive : 1 ≤ seconds) (small : seconds ≤ Text.signed64Limit)
    : AsksForLimit otherwise text seconds

section

variable {text : String}

/-- A blank text asks for no limit. -/
theorem requestedTimeout_of_blank (blank : Text.isBlankText text = true)
    : requestedTimeout text = .ok none := by
  simp only [requestedTimeout, Text.trim_isEmpty, blank, if_true]

/-- A text that is not blank asks for what is read from it without its blanks. -/
theorem requestedTimeout_of_visible (visible : Text.isBlankText text = false)
    : requestedTimeout text
      = match Text.integerWithin Text.signed64Limit (Text.trim text) with
        | .ok n => if 1 ≤ n then .ok (some n.toNat) else .error .invalidTimeout
        | .error _ => .error .invalidTimeout := by
  have shown : ¬ (Text.trim text).isEmpty = true := by
    rw [Text.trim_isEmpty, visible]
    exact Bool.false_ne_true
  exact if_neg shown

/-- A text asks for a limit exactly if it is a numeral in range. -/
theorem requestedTimeout_eq_some_iff {seconds : Nat}
    : requestedTimeout text = .ok (some seconds)
      ↔ Text.IsNumeralOf seconds (Text.trim text)
        ∧ 1 ≤ seconds
        ∧ seconds ≤ Text.signed64Limit := by
  constructor
  · intro asked
    cases blank : Text.isBlankText text with
    | true =>
        rw [requestedTimeout_of_blank blank] at asked
        cases asked
    | false =>
        rw [requestedTimeout_of_visible blank] at asked
        split at asked
        next n read =>
          split at asked
          next positive =>
            cases asked
            have natural : n = (n.toNat : Int) := by omega
            have whole : 1 ≤ n.toNat := by omega
            rw [natural] at read
            obtain ⟨numeral, small⟩ := (Text.integerWithin_eq_ok_iff whole).mp read
            exact ⟨numeral, whole, small⟩
          next => cases asked
        next => cases asked
  · rintro ⟨numeral, positive, small⟩
    have visible : Text.isBlankText text = false := by
      rw [← Text.trim_isEmpty]
      exact numeral.isEmpty
    have read := (Text.integerWithin_eq_ok_iff positive).mpr ⟨numeral, small⟩
    rw [requestedTimeout_of_visible visible, read]
    exact if_pos (by omega)

/-- What is accepted is what the text asks for, by cases on whether it is blank. -/
theorem asksForLimit_iff {otherwise seconds : Nat}
    : AsksForLimit otherwise text seconds
      ↔ ∃ asked, requestedTimeout text = .ok asked ∧ seconds = asked.getD otherwise := by
  constructor
  · intro asks
    cases asks with
    | blank blank => exact ⟨none, requestedTimeout_of_blank blank, rfl⟩
    | numeral numeral positive small =>
        exact ⟨_, requestedTimeout_eq_some_iff.mpr ⟨numeral, positive, small⟩, rfl⟩
  · rintro ⟨asked, accepted, rfl⟩
    cases asked with
    | some seconds =>
        obtain ⟨numeral, positive, small⟩ := requestedTimeout_eq_some_iff.mp accepted
        exact .numeral numeral positive small
    | none =>
        cases blank : Text.isBlankText text with
        | true => exact .blank blank
        | false =>
            rw [requestedTimeout_of_visible blank] at accepted
            split at accepted
            · split at accepted <;> cases accepted
            · cases accepted

/-- A text asks for one time limit at most. -/
theorem AsksForLimit.unique {otherwise seconds other : Nat}
    (asks : AsksForLimit otherwise text seconds) (again : AsksForLimit otherwise text other)
    : seconds = other := by
  obtain ⟨asked, accepted, rfl⟩ := asksForLimit_iff.mp asks
  obtain ⟨same, accepted', rfl⟩ := asksForLimit_iff.mp again
  rw [Except.ok.inj (accepted.symm.trans accepted')]

/-- There is one reason for not accepting a text. -/
theorem requestedTimeout_error {failure : Failure}
    (refused : requestedTimeout text = .error failure)
    : failure = .invalidTimeout := by
  unfold requestedTimeout at refused
  dsimp only at refused
  split at refused
  · cases refused
  · split at refused
    · split at refused
      · cases refused
      · exact (Except.error.inj refused).symm
    · exact (Except.error.inj refused).symm

end

/-- A request asks for a time limit above zero that has 64 bits, if the one that holds otherwise is
such a limit.
-/
theorem AsksForLimit.bounds {otherwise seconds : Nat} {text : String}
    (asks : AsksForLimit otherwise text seconds)
    (bounds : 1 ≤ otherwise ∧ otherwise ≤ Text.word64Limit)
    : 1 ≤ seconds ∧ seconds ≤ Text.word64Limit := by
  cases asks with
  | blank => exact bounds
  | numeral _ positive small => exact ⟨positive, small.trans (by decide)⟩

end FleetOps
