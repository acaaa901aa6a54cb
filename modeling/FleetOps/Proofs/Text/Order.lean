import FleetOps.Proofs.Text.Utf8
import FleetOps.Text.Order

/-! The order of texts by code points is the order of their UTF-8 bytes. It is decided at the first
character in which they differ, and there the bytes differ in the same direction.
-/

namespace FleetOps

namespace Utf8

/-- The bytes of a smaller number come first whatever follows, by cases on how many bytes there
are of each.
-/
theorem Writes.append_lt {m n : Nat} {left right : List UInt8} (smaller : Writes m left)
    (greater : Writes n right) (less : m < n) (more others : List UInt8)
    : left ++ more < right ++ others := by
  cases smaller <;> cases greater <;>
    simp only [Follows, List.cons_append, List.nil_append, List.cons_lt_cons_iff,
      UInt8.lt_iff_toNat_lt, ← UInt8.toNat_inj] at * <;>
    omega

/-- Characters are in the order of the bytes that they begin with. -/
theorem encodeChar_append_lt {c d : Char} (less : c.toNat < d.toNat) (more others : List UInt8)
    : encodeChar c ++ more < encodeChar d ++ others := by
  rw [encodeChar_eq, encodeChar_eq]
  exact (writes_numberBytes c.valid).append_lt (writes_numberBytes d.valid) less more others

/-- A character has at least one byte. -/
theorem Writes.nil_lt {n : Nat} {bytes : List UInt8} (writes : Writes n bytes)
    (more : List UInt8)
    : [] < bytes ++ more := by
  cases writes <;> exact List.nil_lt_cons _ _

end Utf8

namespace Text

/-- What comes first as characters does as bytes, by induction over what both begin with. -/
theorem charsBefore.bytes_lt {s t : List Char} (first : charsBefore s t = true)
    : s.flatMap Utf8.encodeChar < t.flatMap Utf8.encodeChar := by
  induction s generalizing t with
  | nil =>
      cases t with
      | nil => simp [charsBefore] at first
      | cons b t => exact (Utf8.writes_numberBytes b.valid).nil_lt _
  | cons a s ih =>
      cases t with
      | nil => simp [charsBefore] at first
      | cons b t =>
          rw [charsBefore] at first
          simp only [List.flatMap_cons]
          split at first
          next less => exact Utf8.encodeChar_append_lt less _ _
          next notLess =>
            split at first
            next => cases first
            next notGreater =>
              have same : a = b := Char.toNat_inj.mp (by omega)
              rw [same]
              exact List.append_left_lt (ih first)

/-- Texts are ordered as their bytes are: of two texts that differ one comes first either way. -/
theorem before_iff_bytes_lt {s t : String}
    : before s t = true ↔ Utf8.encode s < Utf8.encode t := by
  refine ⟨charsBefore.bytes_lt, fun less => ?_⟩
  by_contra notFirst
  rw [Bool.not_eq_true] at notFirst
  cases other : before t s with
  | true => exact List.lt_asymm less (charsBefore.bytes_lt other)
  | false =>
      rw [eq_of_not_before notFirst other] at less
      exact List.lt_irrefl _ less

end Text

end FleetOps
