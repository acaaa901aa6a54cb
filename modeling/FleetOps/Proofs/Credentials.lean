import FleetOps.Credentials
import Mathlib.Data.List.DropRight
import Mathlib.Data.List.TakeWhile

/-! What credentials are made of: the user, and the key and the password that are there. What is
left of a text once it is trimmed is there if the text was not blank.
-/

namespace FleetOps

-----------------------------------------------------------------------------------------
-- Blank texts
-----------------------------------------------------------------------------------------

namespace Text

/-- Leading blanks do not decide whether all of a text is blank. -/
theorem all_dropBlanks (s : List Char) : (dropBlanks s).all isBlank = s.all isBlank := by
  unfold dropBlanks
  induction s with
  | nil => rfl
  | cons c rest ih => cases blank : isBlank c <;> simp [blank, ih]

/-- Nor do trailing ones. -/
theorem all_dropTrailingBlanks (s : List Char)
    : (dropTrailingBlanks s).all isBlank = s.all isBlank := by
  have dropped := all_dropBlanks s.reverse
  rw [dropBlanks, List.all_reverse] at dropped
  rw [dropTrailingBlanks, List.all_reverse, dropped]

/-- Trimming leaves a blank text blank, and no other. -/
theorem isBlankText_trim (s : String) : isBlankText (trim s) = isBlankText s := by
  rw [isBlankText, trim, String.toList_ofList, trimChars, all_dropTrailingBlanks, all_dropBlanks,
    isBlankText]

/-- Trimming leaves nothing of a blank text, and something of any other. -/
theorem trim_isEmpty (s : String) : (trim s).isEmpty = isBlankText s := by
  rw [Bool.eq_iff_iff, String.isEmpty_iff, trim, String.ofList_eq_empty_iff, trimChars,
    dropTrailingBlanks, List.reverse_eq_nil_iff, List.dropWhile_eq_nil_iff, isBlankText,
    ← all_dropBlanks]
  simp

/-- Trimming leaves no blank at either end: what is left after the leading blanks begins with none,
and so does whatever of it is left after the trailing ones.
-/
theorem trimChars_trimChars (s : List Char) : trimChars (trimChars s) = trimChars s := by
  have leading : (trimChars s).dropWhile isBlank = trimChars s := by
    rw [List.dropWhile_eq_self_iff]
    intro nonempty
    have kept : trimChars s <+: dropBlanks s := List.rdropWhile_prefix isBlank _
    have longer : 0 < (dropBlanks s).length := nonempty.trans_le kept.length_le
    have first : (trimChars s)[0] = (dropBlanks s)[0] := kept.getElem nonempty
    rw [first]
    exact List.dropWhile_get_zero_not isBlank s longer
  have trailing : dropTrailingBlanks (trimChars s) = trimChars s :=
    List.rdropWhile_idempotent isBlank (dropBlanks s)
  rw [trimChars.eq_def (trimChars s), dropBlanks, leading, trailing]

/-- There is nothing left to trim off a text that has been trimmed. -/
theorem trim_trim (s : String) : trim (trim s) = trim s := by
  rw [trim, trim, String.toList_ofList, trimChars_trimChars]

end Text

-----------------------------------------------------------------------------------------
-- Credentials
-----------------------------------------------------------------------------------------

namespace Credentials

variable {readKey : PrivateKey.Reader}

/-- The credentials are those of a user, with a key and a password of theirs, each if there is one,
and in this order.
-/
structure MadeOf (readKey : PrivateKey.Reader) (user key password : String)
    (hasKey hasPassword : Bool) (credentials : Credentials)
    : Prop where
  user : credentials.user = user
  names
    : credentials.methodNames
      = (if hasKey then ["key"] else []) ++ (if hasPassword then ["password"] else [])
  keys : ∀ decoded, .key decoded ∈ credentials.methods → readKey key = some decoded
  passwords : ∀ secret, .password secret ∈ credentials.methods → secret = password

/-- What is built from a user, a key and a password is made of them. -/
theorem build_madeOf {user key password : String} {credentials : Credentials}
    (built : build user key password readKey = .ok credentials)
    : credentials.MadeOf readKey user key password (!Text.isBlankText key) (!password.isEmpty) := by
  have passwordNames : (passwordMethods password).map (·.name)
      = if !password.isEmpty then ["password"] else [] := by
    unfold passwordMethods
    cases password.isEmpty <;> rfl
  have passwords : ∀ method ∈ passwordMethods password, method = .password password := by
    unfold passwordMethods
    cases password.isEmpty <;> simp
  unfold build keyMethods at built
  cases blank : Text.isBlankText key with
  | true =>
      simp only [blank, if_true, List.nil_append, Except.ok.injEq] at built
      subst built
      exact {
        user := rfl
        names := by simpa [methodNames] using passwordNames
        keys := fun decoded member => nomatch passwords _ member
        passwords := fun secret member => LoginMethod.password.inj (passwords _ member)
      }
  | false =>
      cases decoded : readKey key with
      | none => simp [blank, decoded] at built
      | some usable =>
          simp only [blank, decoded, Bool.false_eq_true, if_false, Except.ok.injEq] at built
          subst built
          exact {
            user := rfl
            names := by simpa [methodNames, LoginMethod.name] using passwordNames
            keys := by
              intro other member
              rcases List.mem_cons.mp member with same | member
              · rw [LoginMethod.key.inj same]
                exact decoded
              · exact nomatch passwords _ member
            passwords := by
              intro secret member
              rcases List.mem_cons.mp member with same | member
              · cases same
              · exact LoginMethod.password.inj (passwords _ member)
          }

/-- With a key that is given the credentials begin with its method. -/
theorem build_withKey {user key password : String} {credentials : Credentials}
    (built : build user key password readKey = .ok credentials)
    (given : Text.isBlankText key = false)
    : ∃ decoded,
        readKey key = some decoded
        ∧ credentials.user = user
        ∧ credentials.methods = .key decoded :: passwordMethods password := by
  unfold build keyMethods at built
  cases decoded : readKey key with
  | none => simp [given, decoded] at built
  | some usable =>
      simp only [given, decoded, Bool.false_eq_true, if_false, Except.ok.injEq] at built
      subst built
      exact ⟨usable, rfl, rfl, rfl⟩

end Credentials

end FleetOps
