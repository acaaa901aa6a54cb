import FleetOps.Text.Order

/-! Tables from names to entries, kept in the order of the names.
Each name has at most one entry, and two tables with the same entries are equal.
-/

namespace FleetOps

namespace Named

/-- The entry of the first pair with this name. -/
def find? {α : Type} (name : String) : List (String × α) → Option α
  | [] => none
  | (key, value) :: rest => if key = name then some value else find? name rest

/-- Puts an entry in its place among ordered pairs, replacing the one of the same name. -/
def place {α : Type} (name : String) (value : α) : List (String × α) → List (String × α)
  | [] => [(name, value)]
  | (key, old) :: rest =>
      if Text.before name key then (name, value) :: (key, old) :: rest
      else if Text.before key name then (key, old) :: place name value rest
      else (name, value) :: rest

/-- The pairs without those of this name. -/
def drop {α : Type} (name : String) (pairs : List (String × α)) : List (String × α) :=
  pairs.filter fun pair => pair.1 != name

/-- The names of the pairs strictly increase. -/
def Increasing {α : Type} (pairs : List (String × α)) : Prop :=
  pairs.Pairwise fun left right => Text.before left.1 right.1 = true

/-- A name that comes before all names of ordered pairs still does after an entry with a
later name is placed. -/
private theorem before_place {α : Type} {low name : String} {value : α}
    {pairs : List (String × α)} (first : Text.before low name = true)
    (all : ∀ pair ∈ pairs, Text.before low pair.1 = true)
    : ∀ pair ∈ place name value pairs, Text.before low pair.1 = true := by
  induction pairs with
  | nil => simpa [place] using first
  | cons head rest ih =>
      obtain ⟨key, old⟩ := head
      have tail : ∀ pair ∈ rest, Text.before low pair.1 = true :=
        fun pair member => all pair (List.mem_cons_of_mem _ member)
      have key' : Text.before low key = true := all (key, old) List.mem_cons_self
      unfold place
      split
      · intro pair member
        rcases List.mem_cons.1 member with rfl | member
        · exact first
        · exact all pair member
      · split
        · intro pair member
          rcases List.mem_cons.1 member with rfl | member
          · exact key'
          · exact ih tail pair member
        · intro pair member
          rcases List.mem_cons.1 member with rfl | member
          · exact first
          · exact tail pair member

/-- Placing an entry keeps the pairs ordered. -/
theorem Increasing.place {α : Type} {name : String} {value : α} {pairs : List (String × α)}
    (ordered : Increasing pairs)
    : Increasing (Named.place name value pairs) := by
  induction pairs with
  | nil => simp [Named.place, Increasing]
  | cons head rest ih =>
      obtain ⟨key, old⟩ := head
      have parts := List.pairwise_cons.1 ordered
      unfold Named.place
      split
      next less =>
        refine List.pairwise_cons.2 ⟨?_, ordered⟩
        intro pair member
        rcases List.mem_cons.1 member with rfl | member
        · exact less
        · exact Text.before_trans less (parts.1 pair member)
      next notLess =>
        split
        next greater =>
          exact List.pairwise_cons.2 ⟨before_place greater parts.1, ih parts.2⟩
        next notGreater =>
          have same : key = name :=
            Text.eq_of_not_before (by simpa using notGreater) (by simpa using notLess)
          subst same
          exact List.pairwise_cons.2 ⟨parts.1, parts.2⟩

/-- Dropping a name keeps the pairs ordered. -/
theorem Increasing.drop {α : Type} {name : String} {pairs : List (String × α)}
    (ordered : Increasing pairs)
    : Increasing (Named.drop name pairs) :=
  List.Pairwise.filter _ ordered

/-- An entry that was placed is the one found under its name. -/
theorem find?_place_same {α : Type} (name : String) (value : α) (pairs : List (String × α))
    : find? name (place name value pairs) = some value := by
  induction pairs with
  | nil => simp [place, find?]
  | cons head rest ih =>
      obtain ⟨key, old⟩ := head
      unfold place
      split
      · simp [find?]
      · split
        next greater =>
          have other : key ≠ name := by
            rintro rfl
            rw [Text.before_irrefl] at greater
            cases greater
          simp [find?, other, ih]
        · simp [find?]

/-- Placing an entry changes nothing under other names. -/
theorem find?_place_other {α : Type} {name other : String} (value : α)
    (pairs : List (String × α)) (different : other ≠ name)
    : find? other (place name value pairs) = find? other pairs := by
  induction pairs with
  | nil => simp [place, find?, different.symm]
  | cons head rest ih =>
      obtain ⟨key, old⟩ := head
      unfold place
      split
      · simp [find?, different.symm]
      next notLess =>
        split
        · simp [find?, ih]
        next notGreater =>
          have same : key = name :=
            Text.eq_of_not_before (by simpa using notGreater) (by simpa using notLess)
          subst same
          simp [find?, different.symm]

/-- A dropped name has no entry. -/
theorem find?_drop_same {α : Type} (name : String) (pairs : List (String × α))
    : find? name (drop name pairs) = none := by
  induction pairs with
  | nil => rfl
  | cons head rest ih =>
      obtain ⟨key, old⟩ := head
      by_cases same : key = name
      · simpa [drop, same] using ih
      · simpa [drop, same, find?] using ih

/-- Dropping a name changes nothing under other names. -/
theorem find?_drop_other {α : Type} {name other : String} (pairs : List (String × α))
    (different : other ≠ name)
    : find? other (drop name pairs) = find? other pairs := by
  induction pairs with
  | nil => rfl
  | cons head rest ih =>
      obtain ⟨key, old⟩ := head
      by_cases same : key = name
      · subst same
        simpa [drop, find?, different.symm] using ih
      · by_cases hit : key = other
        · subst hit
          simp [drop, find?, same]
        · simpa [drop, find?, same, hit] using ih

end Named

/-- Entries filed under names. -/
structure Table (α : Type) where
  pairs : List (String × α)
  increasing : Named.Increasing pairs

namespace Table

variable {α : Type}

/-- The table without entries. -/
def empty : Table α :=
  { pairs := [], increasing := List.Pairwise.nil }

/-- The entry filed under a name. -/
def get? (table : Table α) (name : String) : Option α := Named.find? name table.pairs

/-- Files an entry, in place of the one filed under the same name. -/
def insert (table : Table α) (name : String) (value : α) : Table α :=
  {
    pairs := Named.place name value table.pairs
    increasing := table.increasing.place
  }

/-- The table without the entry of a name. -/
def erase (table : Table α) (name : String) : Table α :=
  {
    pairs := Named.drop name table.pairs
    increasing := table.increasing.drop
  }

/-- The entries in the order of their names. -/
def values (table : Table α) : List α := table.pairs.map (·.2)

/-- The names that have an entry, in order. -/
def names (table : Table α) : List String := table.pairs.map (·.1)

/-- How many names have an entry. -/
def size (table : Table α) : Nat := table.pairs.length

/-- The entries whose name and value pass a test. -/
def filter (table : Table α) (keep : String → α → Bool) : Table α :=
  {
    pairs := table.pairs.filter fun pair => keep pair.1 pair.2
    increasing := List.Pairwise.filter _ table.increasing
  }

/-- Files the pairs one after the other, so that of two with one name the last stays. -/
def ofPairs (pairs : List (String × α)) : Table α :=
  pairs.foldl (fun table pair => table.insert pair.1 pair.2) empty

/-- An empty table has nothing. -/
@[simp]
theorem get?_empty (name : String) : (empty : Table α).get? name = none := rfl

/-- What was put under a name is found there. -/
@[simp]
theorem get?_insert_same (table : Table α) (name : String) (value : α)
    : (table.insert name value).get? name = some value :=
  Named.find?_place_same name value table.pairs

/-- Putting something under one name leaves the others alone. -/
theorem get?_insert_other (table : Table α) {name other : String} (value : α)
    (different : other ≠ name)
    : (table.insert name value).get? other = table.get? other :=
  Named.find?_place_other value table.pairs different

/-- What was dropped is not found. -/
@[simp]
theorem get?_erase_same (table : Table α) (name : String)
    : (table.erase name).get? name = none :=
  Named.find?_drop_same name table.pairs

/-- Dropping one name leaves the others alone. -/
theorem get?_erase_other (table : Table α) {name other : String}
    (different : other ≠ name)
    : (table.erase name).get? other = table.get? other :=
  Named.find?_drop_other table.pairs different

end Table

end FleetOps
