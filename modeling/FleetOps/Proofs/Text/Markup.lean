import FleetOps.Text.Markup

/-! Reading pages back: the tags with their attributes, and the text behind character references.
Text that was escaped is read back as it was, and no tag begins in it and no quoted value ends in
it.
-/

namespace FleetOps.Markup

-----------------------------------------------------------------------------------------
-- References
-----------------------------------------------------------------------------------------

/-- The characters with each reference to one of the five special characters undone. -/
def unescapeChars : List Char → List Char
  | '&' :: 'a' :: 'm' :: 'p' :: ';' :: rest => '&' :: unescapeChars rest
  | '&' :: 'l' :: 't' :: ';' :: rest => '<' :: unescapeChars rest
  | '&' :: 'g' :: 't' :: ';' :: rest => '>' :: unescapeChars rest
  | '&' :: 'q' :: 'u' :: 'o' :: 't' :: ';' :: rest => '"' :: unescapeChars rest
  | '&' :: '#' :: '3' :: '9' :: ';' :: rest => '\'' :: unescapeChars rest
  | c :: rest => c :: unescapeChars rest
  | [] => []

/-- A character that begins no reference is read as it is. -/
theorem unescapeChars_cons {c : Char} (plain : c ≠ '&') (rest : List Char)
    : unescapeChars (c :: rest) = c :: unescapeChars rest := by
  rw [unescapeChars]
  all_goals
    intros
    contradiction

/-- A character is read back as it was, by cases on whether it is special. -/
theorem unescapeChars_escapeChar (c : Char) (rest : List Char)
    : unescapeChars (escapeChar c ++ rest) = c :: unescapeChars rest := by
  unfold escapeChar
  split
  case h_6 c amp _ _ _ _ => exact unescapeChars_cons amp rest
  all_goals rfl

/-- Text that was escaped is read back as it was, whatever follows. -/
@[simp] theorem unescapeChars_escapeChars (cs : List Char) (rest : List Char)
    : unescapeChars (escapeChars cs ++ rest) = cs ++ unescapeChars rest := by
  induction cs with
  | nil => rfl
  | cons c cs ih =>
      rw [escapeChars, List.flatMap_cons, List.append_assoc, unescapeChars_escapeChar]
      exact congrArg _ ih

/-- Escaped text has none of the characters that begin or end tags and quoted values. -/
theorem escapeChars_avoids {special : Char} (among : special ∈ ['<', '>', '"', '\''])
    (cs : List Char)
    : special ∉ escapeChars cs := by
  rw [escapeChars, List.mem_flatMap]
  rintro ⟨c, -, stands⟩
  simp only [List.mem_cons, List.not_mem_nil, or_false] at among
  unfold escapeChar at stands
  split at stands
  case h_6 c _ lt gt quote apostrophe =>
    rw [List.mem_singleton] at stands
    subst stands
    rcases among with same | same | same | same
    · exact lt same
    · exact gt same
    · exact quote same
    · exact apostrophe same
  all_goals rcases among with rfl | rfl | rfl | rfl <;> exact absurd stands (by decide)

-----------------------------------------------------------------------------------------
-- Tags
-----------------------------------------------------------------------------------------

/-- A tag: its name, and its attributes as they are written. -/
structure Tag where
  name : List Char
  attributes : List (List Char × List Char)
  deriving DecidableEq

/-- The value of an attribute, with its references undone. -/
def Tag.attribute? (tag : Tag) (name : String) : Option String :=
  (tag.attributes.lookup name.toList).map fun value => String.ofList (unescapeChars value)

/-- Where in a page a reader is, and what has been read of a tag. -/
inductive Place where
  | text
  | name (read : List Char)
  | inside (tag : Tag) (read : List Char)
  | quoted (tag : Tag) (key read : List Char)
  deriving DecidableEq

namespace Place

/-- Reads one character of a page. A tag ends outside of quotes. -/
def step : Place → Char → Option Tag × Place
  | text, c => (none, if c = '<' then name [] else text)
  | name read, c =>
      if c = '>' then (some { name := read, attributes := [] }, text)
      else if c = ' ' then (none, inside { name := read, attributes := [] } [])
      else (none, name (read ++ [c]))
  | inside tag read, c =>
      if c = '>' then
        let bare := if read.isEmpty then [] else [(read, [])]
        (some { tag with attributes := tag.attributes ++ bare }, text)
      else if c = '"' then (none, quoted tag read [])
      else if c = '=' || c = ' ' then (none, inside tag read)
      else (none, inside tag (read ++ [c]))
  | quoted tag key read, c =>
      if c = '"' then
        (none, inside { tag with attributes := tag.attributes ++ [(key, read)] } [])
      else (none, quoted tag key (read ++ [c]))

/-- Reads characters of a page: the tags that end among them, and the place afterwards. -/
def scan : Place → List Char → List Tag × Place
  | place, [] => ([], place)
  | place, c :: rest =>
      let (ended, next) := place.step c
      let (tags, last) := next.scan rest
      (ended.toList ++ tags, last)

/-- What follows is scanned from the place that is reached. -/
theorem scan_append (place : Place) (left right : List Char)
    : place.scan (left ++ right)
      = ((place.scan left).1 ++ ((place.scan left).2.scan right).1,
          ((place.scan left).2.scan right).2) := by
  induction left generalizing place with
  | nil => rfl
  | cons c left ih => simp only [List.cons_append, scan, ih, List.append_assoc]

/-- No tag begins where no bracket stands. -/
theorem scan_text {cs : List Char} (plain : '<' ∉ cs) : text.scan cs = ([], text) := by
  induction cs with
  | nil => rfl
  | cons c cs ih =>
      have other : c ≠ '<' := fun same => plain (same ▸ List.mem_cons_self)
      simp only [scan, step, if_neg other, ih fun among => plain (.tail c among)]
      rfl

/-- A quoted value goes on as long as no quote ends it. -/
theorem scan_quoted {cs : List Char} (plain : '"' ∉ cs) (tag : Tag) (key read : List Char)
    : (quoted tag key read).scan cs = ([], quoted tag key (read ++ cs)) := by
  induction cs generalizing read with
  | nil => rw [List.append_nil, scan]
  | cons c cs ih =>
      have other : c ≠ '"' := fun same => plain (same ▸ List.mem_cons_self)
      simp only [scan, step, if_neg other, ih fun among => plain (.tail c among),
        List.append_assoc, List.singleton_append]
      rfl

end Place

/-- The tags of a page. -/
def tags (page : String) : List Tag := (Place.text.scan page.toList).1

end FleetOps.Markup
