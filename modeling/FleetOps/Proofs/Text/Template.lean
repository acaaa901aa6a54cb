import FleetOps.Proofs.Text.Markup
import Mathlib.Data.List.Infix

/-! Pages that are made by filling the slots of a template. Inert text opens and closes nothing, so
that the page has the tags of the template, whatever the slots are filled with.
-/

namespace FleetOps.Markup

-----------------------------------------------------------------------------------------
-- Inert text
-----------------------------------------------------------------------------------------

/-- The references to the five special characters. -/
def references : List String := ["&amp;", "&lt;", "&gt;", "&quot;", "&#39;"]

/-- Characters that mean nothing but themselves on a page: none begins or ends a tag or a quoted
value, and every ampersand begins a reference.
-/
structure Inert (cs : List Char) : Prop where
  plain : ∀ special ∈ ['<', '>', '"', '\''], special ∉ cs
  refers
    : ∀ rest, '&' :: rest <:+ cs → ∃ reference ∈ references, reference.toList <+: '&' :: rest

/-- Inert texts are inert together. -/
theorem Inert.append {left right : List Char} (first : Inert left) (second : Inert right)
    : Inert (left ++ right) where
  plain := by
    intro special among
    rw [List.mem_append, not_or]
    exact ⟨first.plain special among, second.plain special among⟩
  refers := by
    intro rest ending
    rcases List.suffix_or_suffix_of_suffix ending (List.suffix_append left right) with
      within | ⟨part, beyond⟩
    · exact second.refers rest within
    · cases part with
      | nil => exact second.refers rest (beyond ▸ List.suffix_rfl)
      | cons c part =>
          obtain ⟨rfl, rfl⟩ := List.cons.inj beyond
          -- The reference that begins in the first part also ends there.
          have own : '&' :: part <:+ left :=
            ((List.suffix_append_inj_of_length_eq rfl).mp ending).1
          obtain ⟨reference, among, begins⟩ := first.refers part own
          exact ⟨reference, among, begins.trans (List.prefix_append ('&' :: part) right)⟩

/-- The tag with the names of its attributes only. -/
def Tag.outline (tag : Tag) : Tag :=
  { tag with attributes := tag.attributes.map fun (key, _) => (key, []) }

namespace Place

/-- The place without what has been read of attribute values. -/
def outline : Place → Place
  | text => text
  | name read => name read
  | inside tag read => inside tag.outline read
  | quoted tag key _ => quoted tag.outline key []

/-- What is read here belongs to no tag but at most to the value of an attribute. -/
def isOpen : Place → Bool
  | text => true
  | quoted _ _ _ => true
  | _ => false

end Place

-----------------------------------------------------------------------------------------
-- Templates
-----------------------------------------------------------------------------------------

/-- A piece of a template: text that is always there, or a slot with a name. -/
inductive Piece (σ : Type) where
  | fixed (text : String)
  | slot (name : σ)

namespace Piece

variable {σ : Type}

/-- What a piece is filled with. -/
def chars (content : σ → List Char) : Piece σ → List Char
  | fixed text => text.toList
  | slot name => content name

/-- The characters of a page: the pieces of the template one after another. -/
def fill (content : σ → List Char) (template : List (Piece σ)) : List Char :=
  template.flatMap (chars content)

/-- Every slot of the template stands where text or the value of an attribute is read. -/
def areGuarded (place : Place) : List (Piece σ) → Bool
  | [] => true
  | fixed text :: rest => areGuarded (place.scan text.toList).2 rest
  | slot _ :: rest => place.isOpen && areGuarded place rest

/-- The tags that begin in the template end in it, and its slots are guarded. -/
structure Holds (template : List (Piece σ)) (own : List Tag) : Prop where
  guarded : areGuarded .text template = true
  tags : (Place.text.scan (fill (fun _ => []) template)).1.map Tag.outline = own
  closed : (Place.text.scan (fill (fun _ => []) template)).2 = .text

/-- Pieces are guarded together if the later ones are where the first ones lead. -/
theorem areGuarded_append {place : Place} {left right : List (Piece σ)}
    (first : areGuarded place left = true)
    (second : areGuarded (place.scan (fill (fun _ => []) left)).2 right = true)
    : areGuarded place (left ++ right) = true := by
  induction left generalizing place with
  | nil => exact second
  | cons piece rest ih =>
      simp only [fill, List.flatMap_cons, Place.scan_append] at ih second
      cases piece with
      | fixed text => exact ih first second
      | slot name =>
          simp only [areGuarded, Bool.and_eq_true, List.cons_append] at first ⊢
          exact ⟨first.1, ih first.2 second⟩

/-- The tags of one template come before those of the next. -/
theorem Holds.append {left right : List (Piece σ)} {own more : List Tag} (first : Holds left own)
    (second : Holds right more)
    : Holds (left ++ right) (own ++ more) := by
  have filled : fill (fun _ => []) (left ++ right)
      = fill (fun _ => []) left ++ fill (fun _ => []) right :=
    List.flatMap_append
  refine ⟨areGuarded_append first.guarded ?_, ?_, ?_⟩
  · rw [first.closed]
    exact second.guarded
  · rw [filled, Place.scan_append, first.closed, List.map_append, first.tags, second.tags]
  · rw [filled, Place.scan_append, first.closed]
    exact second.closed

/-- A part of a template that may be missing. -/
theorem Holds.optional {part : List (Piece σ)} {own : List Tag} (holds : Holds part own)
    (shown : Bool)
    : Holds (if shown then part else []) (if shown then own else []) := by
  cases shown with
  | true => exact holds
  | false => exact ⟨rfl, rfl, rfl⟩

end Piece

end FleetOps.Markup
