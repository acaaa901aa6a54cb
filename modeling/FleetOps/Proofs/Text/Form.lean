import FleetOps.Proofs.Text.Utf8
import FleetOps.Text.Form
import Mathlib.Data.List.TakeWhile

/-! Pieces of bytes between separators, and the names and values in them. Every text can be a name
or a value: with its bytes escaped it is read as it was.
-/

namespace FleetOps

-----------------------------------------------------------------------------------------
-- Escapes
-----------------------------------------------------------------------------------------

namespace Percent

/-- A number below sixteen as a hexadecimal digit. -/
def digit (n : Nat) : UInt8 := UInt8.ofNat (if n < 10 then n + 48 else n + 55)

/-- The bytes, each as an escape. -/
def escape (bytes : List UInt8) : List UInt8 :=
  bytes.flatMap fun b => [37, digit (b.toNat / 16), digit (b.toNat % 16)]

/-- The bytes that mean something in a form: an ampersand, an equals sign and a plus sign. -/
def marks : List UInt8 := [38, 61, 43]

/-- Every digit is read back, and is none of the marks. -/
theorem digit_facts
    : ∀ n < 16, hexValue? (digit n) = some (UInt8.ofNat n) ∧ digit n ∉ marks := by
  decide

/-- Escapes are undone, by induction on the bytes. -/
theorem decode_escaped (bytes : List UInt8) : decode (escape bytes) = bytes := by
  induction bytes with
  | nil => rfl
  | cons b rest ih =>
      have bound := b.toNat_lt
      have high := (digit_facts (b.toNat / 16) (by omega)).1
      have low := (digit_facts (b.toNat % 16) (by omega)).1
      have whole : UInt8.ofNat (b.toNat / 16) * 16 + UInt8.ofNat (b.toNat % 16) = b := by
        rw [← UInt8.toNat_inj]
        simp
        omega
      change decode (37 :: digit (b.toNat / 16) :: digit (b.toNat % 16) :: escape rest) = _
      simp [decode, high, low, whole, ih]

/-- No escape has a byte that means something in a form. -/
theorem not_mem_escape {mark : UInt8} (among : mark ∈ marks) (bytes : List UInt8)
    : mark ∉ escape bytes := by
  intro escaped
  obtain ⟨b, -, part⟩ := List.mem_flatMap.mp escaped
  have bound := b.toNat_lt
  rw [List.mem_cons, List.mem_pair] at part
  rcases part with rfl | rfl | rfl
  · exact absurd among (by decide)
  · exact (digit_facts (b.toNat / 16) (by omega)).2 among
  · exact (digit_facts (b.toNat % 16) (by omega)).2 among

end Percent

-----------------------------------------------------------------------------------------
-- Pieces
-----------------------------------------------------------------------------------------

namespace Form

open Percent

variable {separator : UInt8}

/-- What has no separator is one piece. -/
theorem splitAt_of_not_mem {bytes : List UInt8} (whole : separator ∉ bytes)
    : splitAt separator bytes = [bytes] := by
  induction bytes with
  | nil => rfl
  | cons b rest ih =>
      obtain ⟨other, later⟩ := not_or.mp (List.mem_cons.not.mp whole)
      simp [splitAt, Ne.symm other, ih later]

/-- The first piece ends at the first separator. -/
theorem splitAt_append {piece : List UInt8} (whole : separator ∉ piece) (rest : List UInt8)
    : splitAt separator (piece ++ separator :: rest) = piece :: splitAt separator rest := by
  induction piece with
  | nil => simp [splitAt]
  | cons b piece ih =>
      obtain ⟨other, later⟩ := not_or.mp (List.mem_cons.not.mp whole)
      simp [splitAt, Ne.symm other, ih later]

/-- There is always a piece, if only an empty one. -/
theorem splitAt_ne_nil (separator : UInt8) (bytes : List UInt8) : splitAt separator bytes ≠ [] := by
  cases bytes with
  | nil => exact List.cons_ne_nil _ _
  | cons b rest =>
      unfold splitAt
      repeat' split
      all_goals exact List.cons_ne_nil _ _

/-- The pieces have no separators and make up the bytes with one between every two, by induction
over the bytes.
-/
theorem splitAt_spec (separator : UInt8) (bytes : List UInt8)
    : (∀ piece ∈ splitAt separator bytes, separator ∉ piece)
      ∧ [separator].intercalate (splitAt separator bytes) = bytes := by
  induction bytes with
  | nil => exact ⟨by simp [splitAt], rfl⟩
  | cons b rest ih =>
      obtain ⟨whole, together⟩ := ih
      have nonempty := splitAt_ne_nil separator rest
      unfold splitAt
      generalize splitAt separator rest = pieces at whole together nonempty ⊢
      obtain _ | ⟨first, pieces⟩ := pieces
      · exact absurd rfl nonempty
      by_cases same : b = separator
      · subst same
        simp only [beq_self_eq_true, if_true]
        refine ⟨by simpa using whole, ?_⟩
        rw [← together]
        simp [List.intercalate, List.intersperse]
      · simp only [beq_iff_eq, same, if_false]
        obtain ⟨firstWhole, others⟩ := List.forall_mem_cons.mp whole
        refine ⟨List.forall_mem_cons.mpr ⟨?_, others⟩, ?_⟩
        · exact List.mem_cons.not.mpr (not_or.mpr ⟨Ne.symm same, firstWhole⟩)
        · rw [← together]
          cases pieces <;> simp [List.intercalate, List.intersperse]

-----------------------------------------------------------------------------------------
-- Names and values
-----------------------------------------------------------------------------------------

/-- A text that was escaped is read back as it was. -/
theorem decodePart_escape (s : String) : decodePart (escape (Utf8.encode s)) = s := by
  have noPlus : 43 ∉ escape (Utf8.encode s) := not_mem_escape (by decide) _
  have plain
      : (escape (Utf8.encode s)).map (fun b => if b == 43 then 32 else b)
        = escape (Utf8.encode s) := by
    refine (List.map_congr_left fun b among => ?_).trans (List.map_id' _)
    have other : b ≠ 43 := fun same => noPlus (same ▸ among)
    simp [other]
  rw [decodePart, plain, decode_escaped, Utf8.decodeLossy_encode]

/-- A name and a value whose bytes are escaped are read as they were. -/
theorem pairs_escape (name value : String)
    : pairs (escape (Utf8.encode name) ++ 61 :: escape (Utf8.encode value))
      = [(name, value)] := by
  have first : ∀ b ∈ escape (Utf8.encode name), (b != 61) = true := by
    intro b among
    exact bne_iff_ne.mpr fun same => not_mem_escape (by decide) _ (same ▸ among)
  have whole : 38 ∉ escape (Utf8.encode name) ++ 61 :: escape (Utf8.encode value) := by
    have noAmpersand := fun bytes => not_mem_escape (show 38 ∈ marks by decide) bytes
    simp [noAmpersand]
  rw [pairs, splitAt_of_not_mem whole]
  simp [decodePair, List.takeWhile_append_of_pos first, List.dropWhile_append_of_pos first,
    decodePart_escape]

end Form

end FleetOps
