import FleetOps.Http.Message
import FleetOps.Proofs.Text.Utf8

/-! Which values of headers are text, and of what characters. -/

namespace FleetOps.Http

/-- The character may stand in a value that is text: a visible ASCII character, a space or a tab. -/
def IsPlain (c : Char) : Prop := c.toNat = 9 ∨ 32 ≤ c.toNat ∧ c.toNat < 127

instance (c : Char) : Decidable (IsPlain c) :=
  inferInstanceAs (Decidable (c.toNat = 9 ∨ 32 ≤ c.toNat ∧ c.toNat < 127))

/-- Characters that are all seen to be plain are plain. -/
theorem isPlain_of_all {s : List Char} (all : s.all (fun c => decide (IsPlain c)) = true)
    : ∀ c ∈ s, IsPlain c := fun c among => of_decide_eq_true (List.all_eq_true.mp all c among)

/-- A plain character is one byte. -/
theorem encodeChar_plain {c : Char} (plain : IsPlain c)
    : Utf8.encodeChar c = [UInt8.ofNat c.toNat] := by
  have small : c.toNat ≤ 0x7F := by
    rcases plain with tab | visible <;> omega
  rw [Utf8.encodeChar_eq, Utf8.numberBytes, if_pos small]

/-- A byte that a header can hold is a plain character. -/
theorem isPlain_ofNat {b : UInt8} (plain : (b == 9 || (32 ≤ b && b < 127)) = true)
    : IsPlain (Char.ofNat b.toNat) ∧ Utf8.encodeChar (Char.ofNat b.toNat) = [b] := by
  simp only [Bool.or_eq_true, beq_iff_eq, Bool.and_eq_true, decide_eq_true_eq,
    UInt8.le_iff_toNat_le, UInt8.lt_iff_toNat_lt, ← UInt8.toNat_inj] at plain
  have within : b.toNat = 9 ∨ 32 ≤ b.toNat ∧ b.toNat < 127 := plain
  have valid : b.toNat.isValidChar := .inl (by omega)
  have same : (Char.ofNat b.toNat).toNat = b.toNat := by
    rw [show Char.ofNat b.toNat = Char.ofNatAux b.toNat valid from dif_pos valid]
    rfl
  have visible : IsPlain (Char.ofNat b.toNat) := by
    rw [IsPlain, same]
    exact within
  exact ⟨visible, by rw [encodeChar_plain visible, same, UInt8.ofNat_toNat]⟩

/-- A value is read as the text whose bytes it is, if all the characters are plain. -/
theorem valueText?_eq_some_iff {value : List UInt8} {text : String}
    : Request.valueText? value = some text
      ↔ value = Utf8.encode text ∧ ∀ c ∈ text.toList, IsPlain c := by
  unfold Request.valueText?
  constructor
  · intro read
    obtain ⟨plain, same⟩ := Option.ite_none_right_eq_some.mp read
    obtain rfl := Option.some.inj same
    rw [List.all_eq_true] at plain
    rw [Utf8.encode, String.toList_ofList, List.flatMap_map, List.forall_mem_map]
    refine ⟨?_, fun b among => (isPlain_ofNat (plain b among)).1⟩
    rw [List.flatMap_congr fun b among => (isPlain_ofNat (plain b among)).2,
      List.flatMap_singleton']
  · rintro ⟨rfl, plain⟩
    have bytes : Utf8.encode text = text.toList.map fun c => UInt8.ofNat c.toNat := by
      rw [Utf8.encode, List.flatMap_congr fun c among => encodeChar_plain (plain c among),
        ← List.map_eq_flatMap]
    have number : ∀ c ∈ text.toList, (UInt8.ofNat c.toNat).toNat = c.toNat := by
      intro c among
      refine Utf8.toNat_byte ?_
      rcases plain c among with tab | visible <;> omega
    rw [bytes, if_pos, List.map_map]
    · have same : ∀ c ∈ text.toList,
          ((fun b : UInt8 => Char.ofNat b.toNat) ∘ fun c : Char => UInt8.ofNat c.toNat) c = c := by
        intro c among
        rw [Function.comp_apply, number c among, Char.ofNat_toNat]
      rw [List.map_congr_left same, List.map_id', String.ofList_toList]
    · rw [List.all_map, List.all_eq_true]
      intro c among
      simp only [Function.comp_apply, Bool.or_eq_true, beq_iff_eq, Bool.and_eq_true,
        decide_eq_true_eq, UInt8.le_iff_toNat_le, UInt8.lt_iff_toNat_lt, ← UInt8.toNat_inj,
        number c among]
      exact plain c among

end FleetOps.Http
