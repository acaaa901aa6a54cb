import FleetOps.Text.Case
import Mathlib.Data.List.Infix

/-! Lowercase text in its parts. Only a capital sigma looks at its surroundings, and it looks no
further than to the next character that is neither cased nor passed over. At the end of a text, full
lowercase and that of ASCII letters alone find the same texts in ASCII.
-/

namespace FleetOps.Text

/-- Whether a character ends the search for a cased neighbour without success. -/
def endsSearch (c : Char) : Bool := !isCaseIgnorable c && !isCased c

/-- What comes after the end of a search does not matter, by induction on what comes before. -/
theorem meetsCased_endsSearch {c : Char} (ends : endsSearch c = true) (near far : List Char)
    : meetsCased (near ++ c :: far) = meetsCased near := by
  obtain ⟨stays, uncased⟩ := Bool.and_eq_true_iff.mp ends
  rw [Bool.not_eq_true'] at stays uncased
  induction near with
  | nil => simp [meetsCased, stays, uncased]
  | cons head rest ih =>
      cases ignorable : isCaseIgnorable head with
      | false => simp [meetsCased, ignorable]
      | true => simpa [meetsCased, ignorable] using ih

/-- Characters after the end of a search are lowercased as if nothing came before it, by
induction on them.
-/
theorem lowerAfter_endsSearch {c : Char} (ends : endsSearch c = true) (near far s : List Char)
    : lowerAfter (near ++ c :: far) s = lowerAfter near s := by
  induction s generalizing near with
  | nil => rfl
  | cons head rest ih =>
      have following : lowerAfter (head :: (near ++ c :: far)) rest
          = lowerAfter (head :: near) rest := ih (head :: near)
      simp only [lowerAfter, meetsCased_endsSearch ends, following]

/-- Without a capital sigma a text is lowercased as if nothing came after it. -/
theorem lowerAfter_append {s : List Char} (plain : capitalSigma ∉ s) (before t : List Char)
    : lowerAfter before (s ++ t) = lowerAfter before s ++ lowerAfter (s.reverse ++ before) t := by
  induction s generalizing before with
  | nil => rfl
  | cons head rest ih =>
      obtain ⟨other, others⟩ := not_or.mp (mt List.mem_cons.mpr plain)
      have same : (head == capitalSigma) = false := beq_false_of_ne (Ne.symm other)
      simp [lowerAfter, same, ih others]

/-- A text without a capital sigma that ends the search for a cased neighbour keeps its lowercase
form before any other text, and does not change that of the other.
-/
theorem lowerChars_append {s : List Char} {c : Char} (plain : capitalSigma ∉ s ++ [c])
    (ends : endsSearch c = true) (t : List Char)
    : lowerChars (s ++ [c] ++ t) = lowerChars (s ++ [c]) ++ lowerChars t := by
  rw [lowerChars, lowerAfter_append plain, List.append_nil, List.reverse_concat]
  congr 1
  exact lowerAfter_endsSearch ends [] s.reverse t

/-- A last character that is its own lowercase form stays the last one. -/
theorem lowerAfter_concat {c : Char} (other : c ≠ capitalSigma) (own : lowerChar c = [c])
    (before s : List Char)
    : ∃ front, lowerAfter before (s ++ [c]) = front ++ [c] := by
  induction s generalizing before with
  | nil => exact ⟨[], by simp [lowerAfter, beq_false_of_ne other, own]⟩
  | cons head rest ih =>
      obtain ⟨front, h⟩ := ih (head :: before)
      simp only [List.cons_append, lowerAfter, h, ← List.append_assoc]
      exact ⟨_, rfl⟩

-----------------------------------------------------------------------------------------
-- Lowercase text by its end
-----------------------------------------------------------------------------------------

/-- An ASCII character in which no lowercase form ends but its own and that of its capital. Such are
all but `k`, which is the form of the Kelvin sign.
-/
def IsUnmistakable (c : Char) : Prop := c.toNat < 128 ∧ c ≠ 'k'

instance (c : Char) : Decidable (IsUnmistakable c) := inferInstanceAs (Decidable (_ ∧ _))

/-- How a character is lowercased, as far as the end of its form matters: an ASCII character becomes
its small letter, and the form of any other ends in a character that does not pass for one.
-/
inductive HasForm : Char → List Char → Prop
  | ascii {c : Char} (within : c.toNat < 128) : HasForm c [c.toLower]
  | other {c last : Char} (front : List Char) (beyond : 128 ≤ c.toNat)
    (strange : ¬ IsUnmistakable last)
    : HasForm c (front ++ [last])

/-- The core lower case leaves everything beyond ASCII alone. -/
theorem toLower_beyond {c : Char} (beyond : 128 ≤ c.toNat) : c.toLower = c := by
  refine dif_neg fun capital => ?_
  have last : c.toNat ≤ 90 := UInt32.le_iff_toNat_le.mp capital.2
  omega

/-- An ASCII character has the core lower case. -/
theorem lowerChar_ascii {c : Char} (within : c.toNat < 128) : lowerChar c = [c.toLower] := by
  have each : ∀ code < 128, lowerChar (Char.ofNat code) = [(Char.ofNat code).toLower] := by
    decide +kernel
  simpa using each c.toNat within

/-- But for the Kelvin sign, the table leads to ASCII characters from such only. -/
theorem caseRanges_apart
    : ∀ range ∈ caseRanges,
        range.last < 128
        ∨ (128 ≤ range.image
          ∧ (range.image + (range.last - range.first) < 0xD800
            ∨ 0xE000 ≤ range.image ∧ range.image + (range.last - range.first) < 0x110000))
        ∨ range.first = range.last ∧ range.image = 'k'.toNat := by
  decide +kernel

/-- What a character beyond ASCII maps to is not unmistakable, by cases on the ranges. -/
theorem lower?_strange {range : CaseRange} {code image : Nat} (listed : range ∈ caseRanges)
    (beyond : 128 ≤ code) (maps : range.lower? code = some image)
    : ¬ IsUnmistakable (Char.ofNat image) := by
  obtain ⟨within, same⟩ := Option.ite_none_right_eq_some.mp maps
  obtain rfl := Option.some.inj same
  simp only [Bool.and_eq_true, decide_eq_true_eq] at within
  rcases caseRanges_apart range listed with below | ⟨above, valid⟩ | ⟨one, kelvin⟩
  · omega
  · have valid : (range.image + (code - range.first)).isValidChar := by
      unfold Nat.isValidChar
      omega
    have number : (Char.ofNat (range.image + (code - range.first))).toNat
        = range.image + (code - range.first) := by
      rw [Char.ofNat, dif_pos valid]
      rfl
    intro unmistakable
    have small := unmistakable.1
    omega
  · have first : code - range.first = 0 := by omega
    rw [first, kelvin]
    decide

/-- The lower case of a letter is one of its forms. -/
theorem lowerChar_hasForm (c : Char) : HasForm c (lowerChar c) := by
  rcases Nat.lt_or_ge c.toNat 128 with within | beyond
  · rw [lowerChar_ascii within]
    exact .ascii within
  · unfold lowerChar
    split
    · exact .other ['i'] beyond (by decide)
    · split
      next code maps =>
        obtain ⟨range, listed, maps⟩ := List.exists_of_findSome?_eq_some maps
        exact .other [] beyond (lower?_strange listed beyond maps)
      next => exact .other [] beyond fun unmistakable => absurd unmistakable.1 (by omega)

/-- The second text consists of the forms of the characters of the first one. -/
inductive Lowers : List Char → List Char → Prop
  | nil : Lowers [] []
  | concat {s t form : List Char} {c : Char} (earlier : Lowers s t) (ends : HasForm c form)
    : Lowers (s ++ [c]) (t ++ form)

/-- A letter's form is followed by the lower case of what follows it. -/
theorem Lowers.cons {s t form : List Char} {c : Char} (begins : HasForm c form) (later : Lowers s t)
    : Lowers (c :: s) (form ++ t) := by
  induction later with
  | nil => simpa using Lowers.nil.concat begins
  | concat _ ends ih =>
      rw [← List.append_assoc]
      exact ih.concat ends

/-- A text is lowercased character by character, by induction on the text. -/
theorem lowerAfter_lowers (before s : List Char) : Lowers s (lowerAfter before s) := by
  induction s generalizing before with
  | nil => exact .nil
  | cons c rest ih =>
      refine .cons ?_ (ih (c :: before))
      split
      next sigma =>
        obtain rfl := eq_of_beq sigma
        split
        · exact .other [] (by decide) (by decide)
        · exact .other [] (by decide) (by decide)
      next => exact lowerChar_hasForm c

/-- A text in unmistakable characters ends the lowercase form exactly if it ends the text in which
only ASCII letters are made small, by induction on the text from its end.
-/
theorem Lowers.suffix_iff {s t ending : List Char} (lowers : Lowers s t)
    (unmistakable : ∀ c ∈ ending, IsUnmistakable c)
    : ending <:+ t ↔ ending <:+ s.map Char.toLower := by
  induction lowers generalizing ending with
  | nil => rfl
  | @concat s t form c _ ends ih =>
      rw [List.map_append, List.map_singleton]
      cases ends with
      | ascii within =>
          simp only [List.suffix_concat_iff]
          refine or_congr_right (exists_congr fun rest => and_congr_right fun same => ih ?_)
          subst same
          exact fun c among => unmistakable c (List.mem_append_left _ among)
      | @other last front beyond strange =>
          have own : c.toLower = c := toLower_beyond beyond
          rw [← List.append_assoc, own]
          simp only [List.suffix_concat_iff]
          refine or_congr_right (iff_of_false ?_ ?_)
          · intro found
            obtain ⟨rest, rfl, -⟩ := found
            exact strange (unmistakable last (by simp))
          · intro found
            obtain ⟨rest, rfl, -⟩ := found
            exact absurd (unmistakable c (by simp)).1 (by omega)

end FleetOps.Text
