/-! The order of texts by code points, which is also the order of their UTF-8 bytes.
It is total: of two different texts exactly one comes before the other.
-/

namespace FleetOps.Text

/-- Lexicographic order of code points; a proper beginning comes first. -/
def charsBefore : List Char → List Char → Bool
  | [], [] => false
  | [], _ :: _ => true
  | _ :: _, [] => false
  | a :: s, b :: t =>
      if a.toNat < b.toNat then true
      else if b.toNat < a.toNat then false
      else charsBefore s t

/-- `s` comes strictly before `t`. -/
def before (s t : String) : Bool := charsBefore s.toList t.toList

/-- No text comes before itself. -/
theorem charsBefore_irrefl (s : List Char) : charsBefore s s = false := by
  induction s with
  | nil => rfl
  | cons a s ih => simp [charsBefore, ih]

/-- Texts that are not ordered either way are equal. -/
theorem eq_of_not_charsBefore {s t : List Char} (left : charsBefore s t = false)
    (right : charsBefore t s = false)
    : s = t := by
  induction s generalizing t with
  | nil =>
      cases t with
      | nil => rfl
      | cons b t => simp [charsBefore] at left
  | cons a s ih =>
      cases t with
      | nil => simp [charsBefore] at right
      | cons b t =>
          by_cases less : a.toNat < b.toNat
          · simp [charsBefore, less] at left
          · by_cases greater : b.toNat < a.toNat
            · simp [charsBefore, greater] at right
            · simp only [charsBefore, less, greater, if_false] at left right
              have same : a = b := Char.toNat_inj.1 (by omega)
              rw [same, ih left right]

/-- The order is transitive. -/
theorem charsBefore_trans {s t u : List Char} (left : charsBefore s t = true)
    (right : charsBefore t u = true)
    : charsBefore s u = true := by
  induction s generalizing t u with
  | nil =>
      cases u with
      | nil => cases t <;> simp [charsBefore] at right
      | cons c u => rfl
  | cons a s ih =>
      cases t with
      | nil => simp [charsBefore] at left
      | cons b t =>
          cases u with
          | nil => simp [charsBefore] at right
          | cons c u =>
              simp only [charsBefore] at left right ⊢
              by_cases ab : a.toNat < b.toNat
              · by_cases bc : b.toNat < c.toNat
                · simp [show a.toNat < c.toNat by omega]
                · by_cases cb : c.toNat < b.toNat
                  · simp [bc, cb] at right
                  · simp [show a.toNat < c.toNat by omega]
              · by_cases ba : b.toNat < a.toNat
                · simp [ab, ba] at left
                · simp only [ab, ba, if_false] at left
                  by_cases bc : b.toNat < c.toNat
                  · simp [show a.toNat < c.toNat by omega]
                  · by_cases cb : c.toNat < b.toNat
                    · simp [bc, cb] at right
                    · simp only [bc, cb, if_false] at right
                      simp [show ¬ a.toNat < c.toNat by omega,
                        show ¬ c.toNat < a.toNat by omega, ih left right]

/-- No text is before itself. -/
theorem before_irrefl (s : String) : before s s = false := charsBefore_irrefl s.toList

/-- What is before something before a text is before it. -/
theorem before_trans {s t u : String} (left : before s t = true) (right : before t u = true)
    : before s u = true :=
  charsBefore_trans left right

/-- Texts that are not before each other are the same. -/
theorem eq_of_not_before {s t : String} (left : before s t = false)
    (right : before t s = false)
    : s = t :=
  String.toList_inj.1 (eq_of_not_charsBefore left right)

end FleetOps.Text
