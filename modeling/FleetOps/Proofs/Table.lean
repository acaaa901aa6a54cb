import FleetOps.Table
import Mathlib.Data.List.Induction
import Mathlib.Data.List.Sort

/-! Tables through what is found in them. Two tables in which the same is found are equal, and
filing the values of one table over another puts the first in front of the second.
-/

namespace FleetOps

namespace Named

variable {α : Type} {name : String} {value : α} {pairs : List (String × α)}

/-- What is found under a name is the one pair of that name, by induction over the ordered
pairs.
-/
theorem Increasing.find?_eq_some_iff (ordered : Increasing pairs)
    : find? name pairs = some value ↔ (name, value) ∈ pairs := by
  induction pairs with
  | nil => simp [find?]
  | cons head rest ih =>
      obtain ⟨key, first⟩ := head
      obtain ⟨smaller, restOrdered⟩ := List.pairwise_cons.mp ordered
      have absent : (key, value) ∉ rest := by
        intro member
        have less := smaller (key, value) member
        rw [Text.before_irrefl] at less
        cases less
      by_cases same : key = name
      · subst same
        simp [find?, absent, eq_comm]
      · rw [find?, if_neg same, ih restOrdered]
        simp [Ne.symm same]

/-- Ordered pairs with the same members are the same pairs. -/
theorem Increasing.eq_of_mem_iff {left right : List (String × α)} (ordered : Increasing left)
    (other : Increasing right) (same : ∀ pair, pair ∈ left ↔ pair ∈ right)
    : left = right := by
  have irreflexive : Std.Irrefl fun left right : String × α =>
      Text.before left.1 right.1 = true :=
    ⟨fun pair less => by simp [Text.before_irrefl] at less⟩
  have antisymmetric : Std.Antisymm fun left right : String × α =>
      Text.before left.1 right.1 = true := by
    refine ⟨fun left right less greater => ?_⟩
    have cycle := Text.before_trans less greater
    rw [Text.before_irrefl] at cycle
    cases cycle
  exact List.Pairwise.eq_of_mem_iff ordered other same

/-- Ordered pairs have different names. -/
theorem Increasing.names_nodup {α : Type} {pairs : List (String × α)} (ordered : Increasing pairs)
    : (pairs.map (·.1)).Nodup := by
  rw [List.Nodup, List.pairwise_map]
  refine ordered.imp fun less same => ?_
  rw [same, Text.before_irrefl] at less
  cases less

/-- Nothing is found under a name that is not among the names. -/
theorem find?_eq_none_iff {α : Type} {name : String} {pairs : List (String × α)}
    : find? name pairs = none ↔ name ∉ pairs.map (·.1) := by
  induction pairs with
  | nil => simp [find?]
  | cons head rest ih =>
      by_cases same : head.1 = name
      · simp [find?, same]
      · simp [find?, same, ih, Ne.symm same]

/-- Changing the values changes what is found. -/
theorem find?_map {α β : Type} (change : α → β) (name : String) (pairs : List (String × α))
    : find? name (pairs.map fun pair => (pair.1, change pair.2)) = (find? name pairs).map change := by
  induction pairs with
  | nil => rfl
  | cons head rest ih =>
      by_cases same : head.1 = name
      · simp [find?, same]
      · simp [find?, same, ih]

end Named

namespace Table

variable {α : Type} {table left right : Table α} {name : String} {value : α}

/-- What is found under a name is the pair's value. -/
theorem get?_eq_some_iff : table.get? name = some value ↔ (name, value) ∈ table.pairs :=
  table.increasing.find?_eq_some_iff

/-- Tables in which the same is found under every name are equal. -/
theorem ext (same : ∀ name, left.get? name = right.get? name) : left = right := by
  have pairs : left.pairs = right.pairs := by
    refine left.increasing.eq_of_mem_iff right.increasing fun (name, value) => ?_
    rw [← get?_eq_some_iff, ← get?_eq_some_iff, same]
  cases left
  cases right
  cases pairs
  rfl

/-- The values are what is found under some name. -/
theorem mem_values : value ∈ table.values ↔ ∃ name, table.get? name = some value := by
  simp [values, get?_eq_some_iff]

/-- What is put under a name is found there, and anything else as before. -/
theorem get?_insert (table : Table α) (name other : String) (value : α)
    : (table.insert name value).get? other
      = if other = name then some value else table.get? other := by
  by_cases same : other = name
  · subst same
    simp
  · simp [same, get?_insert_other table value same]

-----------------------------------------------------------------------------------------
-- Tables whose entries know their names
-----------------------------------------------------------------------------------------

/-- Every entry is filed under its own name. -/
def FiledBy (nameOf : α → String) (table : Table α) : Prop :=
  ∀ name value, table.get? name = some value → nameOf value = name

variable {nameOf : α → String}

/-- An empty table is filed by any name. -/
theorem FiledBy.empty : (Table.empty : Table α).FiledBy nameOf := by
  intro name value found
  cases found

/-- A table stays filed when a value is put under its own name. -/
theorem FiledBy.insert (filed : table.FiledBy nameOf) (value : α)
    : (table.insert (nameOf value) value).FiledBy nameOf := by
  intro name other found
  rw [get?_insert] at found
  split at found
  · cases found
    exact Eq.symm ‹_›
  · exact filed name other found

/-- A table stays filed when a name is dropped. -/
theorem FiledBy.erase (filed : table.FiledBy nameOf) (dropped : String)
    : (table.erase dropped).FiledBy nameOf := by
  intro name value found
  by_cases same : name = dropped
  · simp [same] at found
  · exact filed name value (get?_erase_other table same ▸ found)

/-- A value of a filed table is found under its own name. -/
theorem FiledBy.mem_values (filed : table.FiledBy nameOf)
    : value ∈ table.values ↔ table.get? (nameOf value) = some value := by
  rw [Table.mem_values]
  constructor
  · rintro ⟨name, found⟩
    exact filed name value found ▸ found
  · exact fun found => ⟨_, found⟩

/-- The names of the values are those of the table. -/
theorem FiledBy.map_values (filed : table.FiledBy nameOf)
    : table.values.map nameOf = table.names := by
  simp only [values, names, List.map_map]
  refine List.map_congr_left fun pair member => ?_
  exact filed pair.1 pair.2 (get?_eq_some_iff.mpr member)

/-- Entries that know their names are listed under different ones: the names strictly increase. -/
theorem FiledBy.names_nodup (filed : table.FiledBy nameOf) : (table.values.map nameOf).Nodup := by
  rw [filed.map_values]
  exact table.increasing.names_nodup

/-- Entries that know their names are listed in the order of the names. -/
theorem FiledBy.values_increasing (filed : table.FiledBy nameOf)
    : table.values.Pairwise fun left right => Text.before (nameOf left) (nameOf right) = true := by
  have ordered : (table.values.map nameOf).Pairwise (Text.before · · = true) := by
    rw [filed.map_values, names, List.pairwise_map]
    exact table.increasing
  exact List.pairwise_map.mp ordered

/-- Entries that know their names are listed once each. -/
theorem FiledBy.values_nodup (filed : table.FiledBy nameOf) : table.values.Nodup :=
  List.Nodup.of_map nameOf filed.names_nodup

/-- A table with more values, filed one after another under their own names. -/
def insertAll (nameOf : α → String) (table : Table α) (values : List α) : Table α :=
  values.foldl (fun filed value => filed.insert (nameOf value) value) table

/-- What is found after filing values is one of them or was there before, by induction over the
values.
-/
theorem get?_insertAll_cases (nameOf : α → String) (table : Table α) (values : List α)
    (name : String)
    : (table.insertAll nameOf values).get? name = table.get? name
        ∧ (∀ value ∈ values, nameOf value ≠ name)
      ∨ ∃ value ∈ values,
          nameOf value = name ∧ (table.insertAll nameOf values).get? name = some value := by
  induction values generalizing table with
  | nil => simp [insertAll]
  | cons first rest ih =>
      rcases ih (table.insert (nameOf first) first) with ⟨found, others⟩ | ⟨value, member, named⟩
      · rw [get?_insert] at found
        split at found
        next same => exact .inr ⟨first, List.mem_cons_self, same.symm, found⟩
        next different =>
          exact .inl ⟨found, List.forall_mem_cons.mpr ⟨Ne.symm different, others⟩⟩
      · exact .inr ⟨value, List.mem_cons_of_mem _ member, named⟩

/-- The values of one table filed over another hide what was there under their names. -/
theorem FiledBy.get?_insertAll {upper : Table α} (filed : upper.FiledBy nameOf)
    (lower : Table α) (name : String)
    : (lower.insertAll nameOf upper.values).get? name = (upper.get? name).or (lower.get? name) := by
  rcases get?_insertAll_cases nameOf lower upper.values name with
    ⟨found, others⟩ | ⟨value, member, named, found⟩
  · have missing : upper.get? name = none := by
      by_contra present
      obtain ⟨value, found⟩ := Option.ne_none_iff_exists'.mp present
      exact others value (Table.mem_values.mpr ⟨name, found⟩) (filed name value found)
    simp [found, missing]
  · have upperFound := filed.mem_values.mp member
    rw [named] at upperFound
    simp [found, upperFound]

-----------------------------------------------------------------------------------------
-- Tables of given pairs
-----------------------------------------------------------------------------------------

/-- Pairs of different names are found over what was there before, by induction over them. -/
theorem get?_foldl_insert {pairs : List (String × α)} (distinct : (pairs.map (·.1)).Nodup)
    (table : Table α) (name : String)
    : (pairs.foldl (fun table pair => table.insert pair.1 pair.2) table).get? name
      = (Named.find? name pairs).or (table.get? name) := by
  induction pairs generalizing table with
  | nil => rfl
  | cons pair rest ih =>
      obtain ⟨fresh, distinct⟩ := List.nodup_cons.mp distinct
      rw [List.foldl_cons, ih distinct, get?_insert, Named.find?]
      by_cases same : pair.1 = name
      · have missing : Named.find? name rest = none := Named.find?_eq_none_iff.mpr (same ▸ fresh)
        simp [same, missing]
      · simp [same, Ne.symm same]

/-- Pairs of different names are found in their table as they are. -/
theorem get?_ofPairs {pairs : List (String × α)} (distinct : (pairs.map (·.1)).Nodup)
    (name : String)
    : (ofPairs pairs).get? name = Named.find? name pairs := by
  rw [ofPairs, get?_foldl_insert distinct, get?_empty, Option.or_none]

/-- Whatever a table of pairs holds is one of them, by induction over them from the last one on. -/
theorem mem_of_mem_ofPairs {pairs : List (String × α)} {pair : String × α}
    (held : pair ∈ (ofPairs pairs).pairs)
    : pair ∈ pairs := by
  induction pairs using List.reverseRecOn with
  | nil => cases held
  | append_singleton earlier last ih =>
      have found := get?_eq_some_iff.mpr held
      rw [ofPairs, List.foldl_append, List.foldl_cons, List.foldl_nil, get?_insert] at found
      rw [List.mem_append, List.mem_singleton]
      split at found
      next same =>
        exact .inr (Prod.ext same (Option.some.inj found).symm)
      next => exact .inl (ih (get?_eq_some_iff.mp found))

/-- Ordered pairs are those of their table. -/
theorem ofPairs_pairs (table : Table α) : ofPairs table.pairs = table :=
  ext fun name => get?_ofPairs table.increasing.names_nodup name

end Table

end FleetOps
