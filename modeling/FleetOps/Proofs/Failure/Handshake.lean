import FleetOps.Failure.Handshake
import FleetOps.Proofs.Text.Case
import Mathlib.Data.List.Infix
import Mathlib.Data.List.TakeWhile

/-! How the texts that tell of a closed stream are told apart by their ends. What stands before
a text does not change what it tells, if it ends in a blank and none of the endings could begin
there; and a text that ends in another character tells of nothing. The endings are found up to the
case of ASCII letters, although the whole text is lowercased.
-/

namespace FleetOps

namespace Text

/-- The trailing blanks of a text end in its last part, unless that is all blank. -/
theorem dropTrailingBlanks_append (s t : List Char)
    : dropTrailingBlanks (s ++ t)
      = if (dropTrailingBlanks t).isEmpty then dropTrailingBlanks s
        else s ++ dropTrailingBlanks t := by
  simp only [dropTrailingBlanks, List.reverse_append, List.dropWhile_append, List.isEmpty_reverse]
  split
  · rfl
  · rw [List.reverse_append, List.reverse_reverse]

/-- A blank has no case. -/
theorem toLower_blank {c : Char} (blank : isBlank c = true) : c.toLower = c := by
  refine dif_neg fun capital => ?_
  have first : 65 ≤ c.toNat := UInt32.le_iff_toNat_le.mp capital.1
  have last : c.toNat ≤ 90 := UInt32.le_iff_toNat_le.mp capital.2
  simp only [isBlank, Bool.or_eq_true, Bool.and_eq_true, decide_eq_true_eq, beq_iff_eq] at blank
  omega

/-- What is left out at the end of a text is blank. -/
theorem exists_trailingBlanks (s : List Char)
    : ∃ blanks, s = dropTrailingBlanks s ++ blanks ∧ ∀ c ∈ blanks, isBlank c = true := by
  refine ⟨(s.reverse.takeWhile isBlank).reverse, ?_, fun c among => ?_⟩
  · rw [dropTrailingBlanks, ← List.reverse_append, List.takeWhile_append_dropWhile,
      List.reverse_reverse]
  · exact List.mem_takeWhile_imp (List.mem_reverse.mp among)

/-- Blanks after a character that is none are left out, and no more. -/
theorem dropTrailingBlanks_concat {c : Char} (visible : isBlank c = false) {blanks : List Char}
    (blank : ∀ c ∈ blanks, isBlank c = true) (s : List Char)
    : dropTrailingBlanks (s ++ [c] ++ blanks) = s ++ [c] := by
  have none : dropTrailingBlanks blanks = [] := by
    rw [dropTrailingBlanks, List.reverse_eq_nil_iff, List.dropWhile_eq_nil_iff]
    exact fun c among => blank c (List.mem_reverse.mp among)
  rw [dropTrailingBlanks_append, none]
  simp [dropTrailingBlanks, visible]

end Text

namespace Handshake

open Text

/-- A text that ends in a character in which no ending ends tells of nothing. -/
theorem tellsOfEnd_concat {message : String} {s : List Char} {c : Char}
    (text : message.toList = s ++ [c]) (visible : isBlank c = false) (other : c ≠ capitalSigma)
    (own : lowerChar c = [c])
    (strange : ∀ ending ∈ endings, ending.toList.getLast? ≠ some c ∧ ending.toList ≠ [])
    : tellsOfEnd message = false := by
  have kept : dropTrailingBlanks message.toList = s ++ [c] := by
    simp [text, dropTrailingBlanks, visible]
  obtain ⟨front, lowered⟩ := lowerAfter_concat other own [] s
  simp only [tellsOfEnd, kept, lowerChars, lowered, List.any_eq_false,
    List.isSuffixOf_iff_suffix, List.suffix_concat_iff]
  rintro ending member (none | ⟨rest, last, _⟩)
  · exact (strange ending member).2 none
  · apply (strange ending member).1
    rw [last, List.getLast?_concat]

/-- An ending of two texts is one of the second if no part of it could begin in the first.
Witness: the second text and the ending are both at the end, so one of them is within the other.
-/
theorem suffix_append_iff {ending lead text : List Char}
    (apart : ∀ part ∈ ending.inits, part <:+ lead → part = [])
    : ending <:+ lead ++ text ↔ ending <:+ text := by
  constructor
  · intro h
    rcases List.suffix_or_suffix_of_suffix h (List.suffix_append lead text) with within | beyond
    · exact within
    · obtain ⟨part, rfl⟩ := beyond
      have first : part <:+ lead := ((List.suffix_append_inj_of_length_eq rfl).mp h).1
      rw [apart part ((List.mem_inits _ _).mpr (List.prefix_append part text)) first]
      exact List.suffix_rfl
  · exact List.suffix_append_of_suffix

/-- A text tells the same after a lead that tells of nothing, ends the search for a cased
neighbour, and in which no ending could begin.
-/
theorem tellsOfEnd_append {lead : String} {s : List Char} {c : Char}
    (text : lead.toList = s ++ [c]) (plain : capitalSigma ∉ s ++ [c])
    (ends : endsSearch c = true) (silent : tellsOfEnd lead = false)
    (apart
      : ∀ ending ∈ endings, ∀ part ∈ ending.toList.inits,
          part <:+ lowerChars (s ++ [c]) → part = [])
    (message : String)
    : tellsOfEnd (lead ++ message) = tellsOfEnd message := by
  simp only [tellsOfEnd, String.toList_append, dropTrailingBlanks_append]
  split
  · next blank =>
      rw [List.isEmpty_iff] at blank
      rw [blank]
      exact silent
  · rw [text, lowerChars_append plain ends, Bool.eq_iff_iff]
    simp only [List.any_eq_true, List.isSuffixOf_iff_suffix]
    exact exists_congr fun ending =>
      and_congr_right fun member => suffix_append_iff (apart ending member)

-----------------------------------------------------------------------------------------
-- Endings in ASCII
-----------------------------------------------------------------------------------------

/-- A message ends like one of a closed stream: apart from trailing white space it ends in one of
three texts, up to the case of ASCII letters.
-/
def EndsLikeClosed (message : String) : Prop :=
  ∃ ending ∈ ["eof", "disconnected", "connection closed by the remote side"],
    ∃ front tail blanks,
      message.toList = front ++ tail ++ blanks
      ∧ (∀ c ∈ blanks, isBlank c = true)
      ∧ (∀ c ∈ tail, c.toNat < 128)
      ∧ tail.map Char.toLower = ending.toList

/-- Every letter of the endings is unmistakable. -/
theorem endings_unmistakable : ∀ ending ∈ endings, ∀ c ∈ ending.toList, IsUnmistakable c := by
  have each : ∀ ending ∈ endings, (ending.toList.all (IsUnmistakable ·)) = true := by
    decide
  intro ending known c among
  exact of_decide_eq_true (List.all_eq_true.mp (each ending known) c among)

/-- Full lowercase finds an ending exactly where ASCII lowercase does. -/
theorem suffix_lowerChars_iff {ending : String} (known : ending ∈ endings) (s : List Char)
    : ending.toList <:+ lowerChars s ↔ ending.toList <:+ s.map Char.toLower :=
  (lowerAfter_lowers [] s).suffix_iff (endings_unmistakable ending known)

/-- No ending ends in a blank. -/
theorem ending_visible {ending : String} (known : ending ∈ endings)
    : ∃ s c, ending.toList = s ++ [c] ∧ isBlank c = false := by
  have each
      : ∀ ending ∈ endings,
          ending.toList = ending.toList.dropLast ++ [ending.toList.getLastD ' ']
          ∧ isBlank (ending.toList.getLastD ' ') = false := by
    decide
  exact ⟨_, _, each ending known⟩

/-- What the lowercase form without trailing blanks ends in is spelled in ASCII before them. -/
theorem suffix_lowerChars_dropTrailingBlanks_iff {ending : String} (known : ending ∈ endings)
    {s : List Char}
    : ending.toList <:+ lowerChars (dropTrailingBlanks s)
      ↔ ∃ front tail blanks,
          s = front ++ tail ++ blanks
          ∧ (∀ c ∈ blanks, isBlank c = true)
          ∧ (∀ c ∈ tail, c.toNat < 128)
          ∧ tail.map Char.toLower = ending.toList := by
  rw [suffix_lowerChars_iff known, List.suffix_map_iff]
  constructor
  · intro ends
    obtain ⟨tail, ⟨front, split⟩, spelled⟩ := ends
    obtain ⟨blanks, text, blank⟩ := exists_trailingBlanks s
    refine ⟨front, tail, blanks, by rw [split, ← text], blank, fun c among => ?_, spelled.symm⟩
    by_contra beyond
    have own : c.toLower = c := toLower_beyond (by omega)
    have spelling : c ∈ ending.toList := spelled ▸ own ▸ List.mem_map_of_mem among
    exact beyond (endings_unmistakable ending known c spelling).1
  · intro ends
    obtain ⟨front, tail, blanks, rfl, blank, -, spelled⟩ := ends
    -- The last letter is visible, so the blanks after it are just what is left out.
    obtain ⟨earlier, last, spelling, visible⟩ := ending_visible known
    obtain ⟨rest, one, rfl, -, single⟩ := List.map_eq_append_iff.mp (spelled.trans spelling)
    obtain ⟨c, rfl, small⟩ := List.map_eq_singleton_iff.mp single
    have seen : isBlank c = false := by
      by_contra blank
      have own := toLower_blank (Bool.not_eq_false _ ▸ blank)
      rw [← small, own] at visible
      exact blank visible
    refine ⟨rest ++ [c], ⟨front, ?_⟩, spelled.symm⟩
    rw [← List.append_assoc, dropTrailingBlanks_concat seen blank]

/-- A message is taken for one of a closed stream by how it ends, and by nothing else. -/
theorem tellsOfEnd_iff {message : String}
    : tellsOfEnd message = true ↔ EndsLikeClosed message := by
  have same : ∀ ending, ending ∈ endings
      ↔ ending ∈ ["eof", "disconnected", "connection closed by the remote side"] := by
    simp only [endings, List.mem_cons, List.not_mem_nil, or_false]
    tauto
  simp only [tellsOfEnd, List.any_eq_true, List.isSuffixOf_iff_suffix, EndsLikeClosed, ← same]
  exact exists_congr fun ending =>
    and_congr_right fun known => suffix_lowerChars_dropTrailingBlanks_iff known

/-- A message that ends like a closed handshake is taken for one. -/
theorem failureOfText_of_ends {message : String} (ends : EndsLikeClosed message)
    : failureOfText message = .handshakeEnded :=
  if_pos (tellsOfEnd_iff.mpr ends)

/-- Any other message is the failure's text. -/
theorem failureOfText_of_not_ends {message : String} (other : ¬ EndsLikeClosed message)
    : failureOfText message = .handshake message :=
  if_neg (mt tellsOfEnd_iff.mp other)

/-- The kind of a fault alone tells of a closed stream. -/
inductive Fault.EndsByKind : Fault → Prop
  | disconnected : EndsByKind .disconnected
  | hungUp : EndsByKind .hungUp
  | unexpectedEnd (text : String) : EndsByKind (.io .unexpectedEnd text)
  | brokenPipe (text : String) : EndsByKind (.io .brokenPipe text)

/-- What ends by its kind is a closed handshake, whatever its text. -/
theorem Fault.EndsByKind.failure_eq {fault : Fault} (ends : fault.EndsByKind)
    : fault.failure = .handshakeEnded := by
  cases ends <;> rfl

/-- A fault of any other kind is told by its text, by cases on the kinds. -/
theorem Fault.failure_eq_ofText {fault : Fault} (other : ¬ fault.EndsByKind)
    : fault.failure = failureOfText fault.message := by
  cases fault with
  | disconnected => exact absurd .disconnected other
  | hungUp => exact absurd .hungUp other
  | io kind text =>
      cases kind with
      | unexpectedEnd => exact absurd (.unexpectedEnd text) other
      | brokenPipe => exact absurd (.brokenPipe text) other
      | _ => rfl
  | _ => rfl

/-- A text is taken for one of a closed stream exactly if it ends like one, whatever characters it
holds, and it is kept as it is otherwise. Faults of four kinds are taken for one whatever their
text, and all others by their text.
-/
theorem handshakeEnded_iff
    : (∀ message,
        (tellsOfEnd message = true ↔ EndsLikeClosed message)
        ∧ (failureOfText message = .handshakeEnded ↔ EndsLikeClosed message)
        ∧ (¬ EndsLikeClosed message → failureOfText message = .handshake message))
      ∧ ∀ fault : Fault,
          (fault.failure = .handshakeEnded ↔ fault.EndsByKind ∨ EndsLikeClosed fault.message)
          ∧ (fault.failure ≠ .handshakeEnded → fault.failure = .handshake fault.message) := by
  have byText : ∀ message, failureOfText message = .handshakeEnded ↔ EndsLikeClosed message := by
    intro message
    refine ⟨fun ended => ?_, failureOfText_of_ends⟩
    by_contra other
    cases ended.symm.trans (failureOfText_of_not_ends other)
  refine ⟨fun message => ?_, fun fault => ?_⟩
  · exact ⟨tellsOfEnd_iff, byText message, failureOfText_of_not_ends⟩
  · by_cases kind : fault.EndsByKind
    · exact ⟨iff_of_true kind.failure_eq (.inl kind), fun other => absurd kind.failure_eq other⟩
    · rw [Fault.failure_eq_ofText kind, byText, or_iff_right kind]
      exact ⟨Iff.rfl, fun other => failureOfText_of_not_ends (mt failureOfText_of_ends other)⟩

/-- A capital with a dot becomes two characters, of which the second stands in the way. -/
example : tellsOfEnd "D\u0130SCONNECTED" = false := by decide +kernel

end Handshake

end FleetOps
