import Mathlib.Data.List.Infix
import FleetOps.Text.Percent

/-! What undoing escapes does to bytes: they get shorter with every escape, and without one they are
left as they are.
-/

namespace FleetOps.Percent

/-- Somewhere in the bytes stands an escape. -/
def HasEscape (bytes : List UInt8) : Prop :=
  ∃ high low,
    (hexValue? high).isSome ∧ (hexValue? low).isSome ∧ [37, high, low] <:+: bytes

section

variable {a : UInt8} {rest bytes : List UInt8}

/-- There is no escape in nothing. -/
theorem not_hasEscape_nil : ¬ HasEscape [] := by
  rintro ⟨high, low, -, -, among⟩
  exact absurd (List.infix_nil.mp among) (List.cons_ne_nil _ _)

/-- What begins with an escape is read as one byte and the rest. -/
theorem decode_escape {high low : UInt8} (first : (hexValue? high).isSome)
    (second : (hexValue? low).isSome) (rest : List UInt8)
    : ∃ b, decode (37 :: high :: low :: rest) = b :: decode rest := by
  obtain ⟨h, first⟩ := Option.isSome_iff_exists.mp first
  obtain ⟨l, second⟩ := Option.isSome_iff_exists.mp second
  exact ⟨h * 16 + l, by simp [decode, first, second]⟩

/-- A byte with which no escape begins is kept. -/
theorem decode_cons
    (plain
      : ¬ ∃ high low,
          (hexValue? high).isSome ∧ (hexValue? low).isSome ∧ [37, high, low] <+: a :: rest)
    : decode (a :: rest) = a :: decode rest := by
  match rest with
  | [] => rfl
  | [b] => rfl
  | b :: c :: rest =>
      rw [decode]
      split
      next percent =>
        obtain rfl := beq_iff_eq.mp percent
        split
        next high low first second =>
          refine absurd ⟨b, c, ?_, ?_, List.prefix_append [37, b, c] rest⟩ plain
          · rw [first]
            rfl
          · rw [second]
            rfl
        next => rfl
      next => rfl

/-- An escape begins a text or is in the rest of it. -/
theorem hasEscape_cons_iff
    : HasEscape (a :: rest)
      ↔ (∃ high low,
          (hexValue? high).isSome ∧ (hexValue? low).isSome ∧ [37, high, low] <+: a :: rest)
        ∨ HasEscape rest := by
  simp only [HasEscape, List.infix_cons_iff, and_or_left, exists_or]

end

/-- Undoing escapes leaves bytes without one as they are, and makes others shorter, by induction on
the length.
-/
theorem decode_cases (bytes : List UInt8)
    : ¬ HasEscape bytes ∧ decode bytes = bytes
      ∨ HasEscape bytes ∧ (decode bytes).length < bytes.length := by
  obtain _ | ⟨a, rest⟩ := bytes
  · exact .inl ⟨not_hasEscape_nil, rfl⟩
  rw [hasEscape_cons_iff]
  by_cases begins : ∃ high low,
      (hexValue? high).isSome ∧ (hexValue? low).isSome ∧ [37, high, low] <+: a :: rest
  · obtain ⟨high, low, first, second, after, same⟩ := id begins
    obtain ⟨rfl, rfl⟩ := List.cons.inj same
    obtain ⟨b, decoded⟩ := decode_escape first second after
    have shorter : (decode after).length ≤ after.length := by
      rcases decode_cases after with ⟨_, same⟩ | ⟨_, less⟩
      · rw [same]
      · exact less.le
    refine .inr ⟨.inl begins, ?_⟩
    change (decode (37 :: high :: low :: after)).length < after.length + 3
    rw [decoded, List.length_cons]
    omega
  · rw [decode_cons begins]
    rcases decode_cases rest with ⟨plain, same⟩ | ⟨escaped, less⟩
    · exact .inl ⟨not_or.mpr ⟨begins, plain⟩, congrArg _ same⟩
    · exact .inr ⟨.inr escaped, Nat.succ_lt_succ less⟩
  termination_by bytes.length

/-- Bytes without an escape stand for themselves. -/
theorem decode_of_plain {bytes : List UInt8} (plain : ¬ HasEscape bytes) : decode bytes = bytes := by
  rcases decode_cases bytes with ⟨_, same⟩ | ⟨escaped, _⟩
  · exact same
  · exact absurd escaped plain

/-- Decoding adds no bytes. -/
theorem length_decode_le (bytes : List UInt8) : (decode bytes).length ≤ bytes.length := by
  rcases decode_cases bytes with ⟨_, same⟩ | ⟨_, less⟩
  · rw [same]
  · exact less.le

/-- What stands for itself has no escape. -/
theorem not_hasEscape_of_decode_eq {bytes : List UInt8} (same : decode bytes = bytes)
    : ¬ HasEscape bytes := by
  rcases decode_cases bytes with ⟨plain, _⟩ | ⟨_, less⟩
  · exact plain
  · exact absurd less (by rw [same]; exact lt_irrefl _)

end FleetOps.Percent
