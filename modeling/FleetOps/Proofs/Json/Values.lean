import FleetOps.Proofs.Json.Trees
import FleetOps.Proofs.Table

/-! What a reader makes of a tree. The tree of a value is read as that value if it is nested no
deeper than the reader allows, and a tree without two members of one name holds the same at every
place as the value that is read from it.
-/

namespace FleetOps.Json

-----------------------------------------------------------------------------------------
-- Values that a reader makes
-----------------------------------------------------------------------------------------

/-- The value has at most `budget` open brackets, and the members of its objects are in order. -/
inductive Value.Nests : Nat → Value → Prop
  | null {budget : Nat} : Nests budget .null
  | bool {budget : Nat} (value : Bool) : Nests budget (.bool value)
  | number {budget : Nat} (number : Number) : Nests budget (.number number)
  | text {budget : Nat} (value : String) : Nests budget (.text value)
  | array {budget : Nat} {items : List Value} (each : ∀ item ∈ items, Nests budget item)
    : Nests (budget + 1) (.array items)
  | object {budget : Nat} {members : List (String × Value)}
    (increasing : Named.Increasing members) (each : ∀ member ∈ members, Nests budget member.2)
    : Nests (budget + 1) (.object members)

namespace Tree

/-- Induction over a tree, where an array or an object follows from all that it encloses. -/
theorem induct {motive : Tree → Prop} (null : motive .null)
    (bool : ∀ value, motive (.bool value)) (number : ∀ value, motive (.number value))
    (text : ∀ content, motive (.text content))
    (array : ∀ items, (∀ item ∈ items, motive item) → motive (.array items))
    (object : ∀ members, (∀ member ∈ members, motive member.2) → motive (.object members))
    : ∀ tree, motive tree
  | .null => null
  | .bool value => bool value
  | .number value => number value
  | .text content => text content
  | .array items => array items fun item _ => induct null bool number text array object item
  | .object members =>
      object members fun member _ => induct null bool number text array object member.2
termination_by tree => sizeOf tree
decreasing_by
  · have smaller := List.sizeOf_lt_of_mem ‹item ∈ items›
    simp only [Tree.array.sizeOf_spec]
    omega
  · have smaller := List.sizeOf_lt_of_mem ‹member ∈ members›
    obtain ⟨name, tree⟩ := member
    simp only [Tree.object.sizeOf_spec, Prod.mk.sizeOf_spec] at smaller ⊢
    omega

variable {budget : Nat}

/-- All elements of a list are read exactly if each of them is. -/
theorem mapM_eq_some_iff {α β : Type} {read : α → Option β} {left : List α} {right : List β}
    : left.mapM read = some right
      ↔ List.Forall₂ (fun one other => read one = some other) left right := by
  induction left generalizing right with
  | nil => simp [eq_comm]
  | cons one rest ih =>
      simp only [List.mapM_cons, Option.bind_eq_bind, Option.bind_eq_some_iff, ih,
        List.forall₂_cons_left_iff]
      constructor
      · intro all
        obtain ⟨other, first, others, later, same⟩ := all
        exact ⟨other, others, first, later, (Option.some.inj same).symm⟩
      · intro all
        obtain ⟨other, others, first, later, same⟩ := all
        exact ⟨other, first, others, later, congrArg some same.symm⟩

/-- Items are read one by one. -/
theorem itemsToValues?_eq_some_iff {items : List Tree} {values : List Value}
    : itemsToValues? budget items = some values
      ↔ List.Forall₂ (fun item value => item.toValue? budget = some value) items values := by
  induction items generalizing values with
  | nil => simp [itemsToValues?, eq_comm]
  | cons item rest ih =>
      rw [itemsToValues?, List.forall₂_cons_left_iff]
      constructor
      · intro read
        split at read
        next value values first later =>
          cases read
          exact ⟨value, values, first, ih.mp later, rfl⟩
        next => cases read
      · intro read
        obtain ⟨value, values, first, later, rfl⟩ := read
        rw [first, ih.mpr later]

/-- Members have values exactly if each has a name that can be read and a value. -/
theorem membersToValues?_eq_some_iff {members : List (Option String × Tree)}
    {pairs : List (String × Value)}
    : membersToValues? budget members = some pairs
      ↔ List.Forall₂
          (fun member pair =>
            member.1 = some pair.1 ∧ member.2.toValue? budget = some pair.2)
          members pairs := by
  induction members generalizing pairs with
  | nil => simp [membersToValues?, eq_comm]
  | cons member rest ih =>
      obtain ⟨name, item⟩ := member
      unfold membersToValues?
      rw [List.forall₂_cons_left_iff]
      constructor
      · intro read
        split at read
        next name value pairs first later =>
          cases read
          exact ⟨(name, value), pairs, ⟨rfl, first⟩, ih.mp later, rfl⟩
        next => cases read
      · intro read
        obtain ⟨⟨name, value⟩, pairs, ⟨known, first⟩, later, rfl⟩ := read
        dsimp only at known first
        rw [known, first, ih.mpr later]

end Tree

/-- The tree of a value that is nested no deeper than a reader allows is read as that value, by
induction on the value.
-/
theorem Value.Nests.toValue?_ofValue {budget : Nat} {value : Value} (nests : value.Nests budget)
    : (Tree.ofValue value).toValue? budget = some value := by
  induction nests with
  | null => rfl
  | bool => rfl
  | number => rfl
  | text => rfl
  | @array budget items _ each =>
      have read : Tree.itemsToValues? budget (items.map Tree.ofValue) = some items := by
        rw [Tree.itemsToValues?_eq_some_iff, List.forall₂_map_left_iff, List.forall₂_same]
        exact each
      rw [Tree.ofValue, Tree.ofValues_eq_map, Tree.toValue?, read, Option.map_some]
  | @object budget members increasing _ each =>
      have ordered := congrArg Table.pairs (Table.ofPairs_pairs ⟨members, increasing⟩)
      have read : Tree.membersToValues? budget
          (members.map fun member => (some member.1, Tree.ofValue member.2)) = some members := by
        rw [Tree.membersToValues?_eq_some_iff, List.forall₂_map_left_iff, List.forall₂_same]
        exact fun member among => ⟨rfl, each member among⟩
      rw [Tree.ofValue, Tree.ofMembers_eq_map, Tree.toValue?, read, Option.map_some]
      exact congrArg (fun members => some (Value.object members)) ordered

/-- What is related to one list in pairs is related to each of its elements. -/
theorem Tree.exists_of_forall₂ {α β : Type} {related : α → β → Prop} {left : List α}
    {right : List β} (pairwise : List.Forall₂ related left right)
    : ∀ one ∈ left, ∃ other, related one other :=
  ((List.forall₂_and_left _ _).mp (pairwise.imp fun _ other holds => ⟨⟨other, holds⟩, holds⟩)).1

/-- A value whose tree is read at all is nested no deeper than the reader allows, by induction on
the value.
-/
theorem Value.Nests.of_toValue? {budget limit : Nat} {value read : Value}
    (nests : value.Nests budget) (reads : (Tree.ofValue value).toValue? limit = some read)
    : value.Nests limit := by
  induction nests generalizing limit read with
  | null => exact .null
  | bool value => exact .bool value
  | number number => exact .number number
  | text value => exact .text value
  | @array budget items _ ih =>
      rw [Tree.ofValue, Tree.ofValues_eq_map] at reads
      cases limit with
      | zero => cases reads
      | succ inner =>
          obtain ⟨values, each, -⟩ := Option.map_eq_some_iff.mp reads
          rw [Tree.itemsToValues?_eq_some_iff, List.forall₂_map_left_iff] at each
          refine .array fun item among => ?_
          obtain ⟨value, reads⟩ := Tree.exists_of_forall₂ each item among
          exact ih item among reads
  | @object budget members increasing _ ih =>
      rw [Tree.ofValue, Tree.ofMembers_eq_map] at reads
      cases limit with
      | zero => cases reads
      | succ inner =>
          obtain ⟨pairs, each, -⟩ := Option.map_eq_some_iff.mp reads
          rw [Tree.membersToValues?_eq_some_iff, List.forall₂_map_left_iff] at each
          refine .object increasing fun member among => ?_
          obtain ⟨pair, -, reads⟩ := Tree.exists_of_forall₂ each member among
          exact ih member among reads

namespace Tree

variable {budget : Nat} {tree : Tree} {value : Value}

/-- What each element carries over to its partner holds of all partners. -/
theorem forall_mem_of_forall₂ {α β : Type} {related : α → β → Prop} {holds : α → Prop}
    {result : β → Prop} {left : List α} {right : List β} (pairwise : List.Forall₂ related left right)
    (each : ∀ one ∈ left, holds one)
    (carries : ∀ one other, related one other → holds one → result other)
    : ∀ other ∈ right, result other := by
  induction pairwise with
  | nil => nofun
  | cons first _ ih =>
      obtain ⟨head, rest⟩ := List.forall_mem_cons.mp each
      exact List.forall_mem_cons.mpr ⟨carries _ _ first head, ih rest⟩

/-- A value that was read is nested no deeper than the reader allows, by induction on the tree. -/
theorem nests_of_toValue? (read : tree.toValue? budget = some value) : value.Nests budget := by
  induction tree using Tree.induct generalizing budget value with
  | null =>
      cases read
      exact .null
  | bool value =>
      cases read
      exact .bool value
  | number number =>
      obtain ⟨number, -, rfl⟩ := Option.map_eq_some_iff.mp read
      exact .number number
  | text content =>
      obtain ⟨content, -, rfl⟩ := Option.map_eq_some_iff.mp read
      exact .text content
  | array items ih =>
      cases budget with
      | zero => cases read
      | succ inner =>
          obtain ⟨values, each, rfl⟩ := Option.map_eq_some_iff.mp read
          exact .array (forall_mem_of_forall₂ (itemsToValues?_eq_some_iff.mp each) ih
            fun item value read nests => nests read)
  | object members ih =>
      cases budget with
      | zero => cases read
      | succ inner =>
          obtain ⟨pairs, each, rfl⟩ := Option.map_eq_some_iff.mp read
          have nested : ∀ pair ∈ pairs, pair.2.Nests inner :=
            forall_mem_of_forall₂ (membersToValues?_eq_some_iff.mp each) ih
              fun member pair read nests => nests read.2
          exact .object (Table.ofPairs pairs).increasing fun pair held =>
            nested pair (Table.mem_of_mem_ofPairs held)

/-- The numbers of a value that was read are numbers of the tree, by induction on the tree. -/
theorem NumbersAre.of_toValue? {among : Option Number → Prop} (numbers : tree.NumbersAre among)
    (read : tree.toValue? budget = some value)
    : value.NumbersAre fun number => among (some number) := by
  induction numbers generalizing budget value with
  | null =>
      cases read
      exact .null
  | bool value =>
      cases read
      exact .bool value
  | number holds =>
      obtain ⟨number, rfl, rfl⟩ := Option.map_eq_some_iff.mp read
      exact .number holds
  | text content =>
      obtain ⟨content, -, rfl⟩ := Option.map_eq_some_iff.mp read
      exact .text content
  | array _ ih =>
      cases budget with
      | zero => cases read
      | succ inner =>
          obtain ⟨values, each, rfl⟩ := Option.map_eq_some_iff.mp read
          exact .array (forall_mem_of_forall₂ (itemsToValues?_eq_some_iff.mp each) ih
            fun item value read numbers => numbers read)
  | object _ ih =>
      cases budget with
      | zero => cases read
      | succ inner =>
          obtain ⟨pairs, each, rfl⟩ := Option.map_eq_some_iff.mp read
          have held : ∀ pair ∈ pairs, pair.2.NumbersAre fun number => among (some number) :=
            forall_mem_of_forall₂ (membersToValues?_eq_some_iff.mp each) ih
              fun member pair read numbers => numbers read.2
          exact .object fun pair among => held pair (Table.mem_of_mem_ofPairs among)

-----------------------------------------------------------------------------------------
-- What is at the places of a tree
-----------------------------------------------------------------------------------------

/-- A step into a tree. -/
inductive Place where
  | member (name : String)
  | item (index : Nat)

/-- What is seen of a tree without a step into it. -/
inductive Face where
  | null
  | bool (value : Bool)
  | number (value : Option Number)
  | text (content : Option String)
  | array
  | object

/-- What is seen of the tree. -/
def face : Tree → Face
  | null => .null
  | bool value => .bool value
  | number value => .number value
  | text content => .text content
  | array _ => .array
  | object _ => .object

/-- The tree after a step, if there is one. -/
def child? : Tree → Place → Option Tree
  | object members, .member name => (members.find? (·.1 == some name)).map (·.2)
  | array items, .item index => items[index]?
  | _, _ => none

/-- What is seen at the end of a path. -/
def faceAt? (tree : Tree) : List Place → Option Face
  | [] => some tree.face
  | place :: path => (tree.child? place).bind (·.faceAt? path)

/-- No object of the tree has two members of one name. -/
inductive Distinct : Tree → Prop
  | null : Distinct .null
  | bool (value : Bool) : Distinct (.bool value)
  | number (value : Option Number) : Distinct (.number value)
  | text (content : Option String) : Distinct (.text content)
  | array {items : List Tree} (each : ∀ item ∈ items, Distinct item) : Distinct (.array items)
  | object {members : List (Option String × Tree)} (names : (members.map (·.1)).Nodup)
    (each : ∀ member ∈ members, Distinct member.2)
    : Distinct (.object members)

/-- The object with given members. -/
def ofFields (fields : Fields) : Tree := .object (fields.map fun field => (some field.1, field.2))

/-- Objects with the same tree have the same fields. -/
theorem ofFields_injective : Function.Injective ofFields := by
  intro fields others same
  refine List.map_injective_iff.mpr ?_ (Tree.object.inj same)
  intro field other same
  obtain ⟨named, held⟩ := Prod.mk.inj same
  exact Prod.ext (Option.some.inj named) held

/-- The tree of an object has the trees of its members. -/
theorem ofValue_object (members : List (String × Value))
    : ofValue (.object members) = ofFields (members.map fun member => (member.1, ofValue member.2)) := by
  rw [ofValue, ofMembers_eq_map, ofFields, List.map_map]
  rfl

/-- Only an object has members, and they are its own. -/
theorem members?_eq_some_iff {fields : Fields}
    : tree.members? = some fields ↔ tree = ofFields fields := by
  have named (member : Option String × Tree) (field : String × Tree)
      : member.1.map (·, member.2) = some field ↔ member = (some field.1, field.2) := by
    rw [Option.map_eq_some_iff, Prod.ext_iff]
    constructor
    · intro named
      obtain ⟨name, known, rfl⟩ := named
      exact ⟨known, rfl⟩
    · intro both
      exact ⟨field.1, both.1, Prod.ext rfl both.2⟩
  cases tree with
  | object members =>
      rw [members?, mapM_eq_some_iff, ofFields, Tree.object.injEq, ← List.forall₂_eq_eq_eq,
        List.forall₂_map_right_iff]
      simp only [named]
  | _ => simp [members?, ofFields]

/-- What is found of a name in an object whose members have names. -/
theorem child?_ofFields (fields : Fields) (name : String)
    : (ofFields fields).child? (.member name) = Named.find? name fields := by
  induction fields with
  | nil => rfl
  | cons field rest ih =>
      simp only [ofFields, child?, List.map_cons, List.find?_cons, Named.find?] at ih ⊢
      by_cases same : field.1 = name
      · simp [same]
      · have other : (some field.1 == some name) = false := by simp [same]
        rw [other, if_neg same]
        exact ih

/-- A member of an object is found under its name. -/
theorem child?_ofValue_object (members : List (String × Value)) (name : String)
    : (ofValue (.object members)).child? (.member name)
      = (Named.find? name members).map ofValue := by
  rw [ofValue_object, child?_ofFields, Named.find?_map]

/-- The pairs that are read from members are under the names of these. -/
theorem names_of_membersToValues? {members : List (Option String × Tree)}
    {pairs : List (String × Value)} (read : membersToValues? budget members = some pairs)
    : members.map (·.1) = (pairs.map (·.1)).map some := by
  rw [membersToValues?_eq_some_iff] at read
  induction read with
  | nil => rfl
  | cons first _ ih => rw [List.map_cons, first.1, ih, List.map_cons, List.map_cons]

/-- What is found of a name in an object and in the pairs that are read from it goes together. -/
theorem find?_of_membersToValues? {members : List (Option String × Tree)}
    {pairs : List (String × Value)} (read : membersToValues? budget members = some pairs)
    (name : String)
    : (object members).child? (.member name) = none ∧ Named.find? name pairs = none
      ∨ ∃ member ∈ members, ∃ value,
          (object members).child? (.member name) = some member.2
          ∧ Named.find? name pairs = some value
          ∧ member.2.toValue? budget = some value := by
  rw [membersToValues?_eq_some_iff] at read
  induction read with
  | nil => exact .inl ⟨rfl, rfl⟩
  | @cons member pair members pairs first _ ih =>
      obtain ⟨known, holds⟩ := first
      by_cases same : pair.1 = name
      · refine .inr ⟨member, List.mem_cons_self, pair.2, ?_, ?_, holds⟩
        · simp [child?, known, same]
        · simp [Named.find?, same]
      · have skips : (object (member :: members)).child? (.member name)
            = (object members).child? (.member name) := by
          simp [child?, known, same]
        rw [skips, Named.find?, if_neg same]
        rcases ih with missing | ⟨other, among, found⟩
        · exact .inl missing
        · exact .inr ⟨other, List.mem_cons_of_mem _ among, found⟩

/-- Two lists that go together pairwise have something that goes together at a place, or nothing. -/
theorem getElem?_of_forall₂ {α β : Type} {related : α → β → Prop} {left : List α}
    {right : List β} (pairwise : List.Forall₂ related left right) (index : Nat)
    : left[index]? = none ∧ right[index]? = none
      ∨ ∃ one ∈ left, ∃ other,
          left[index]? = some one ∧ right[index]? = some other ∧ related one other := by
  rcases Nat.lt_or_ge index left.length with inside | outside
  · have within : index < right.length := pairwise.length_eq ▸ inside
    exact .inr ⟨_, List.getElem_mem inside, _, List.getElem?_eq_getElem inside,
      List.getElem?_eq_getElem within, pairwise.get inside within⟩
  · have beyond : right.length ≤ index := pairwise.length_eq ▸ outside
    exact .inl ⟨List.getElem?_eq_none outside, List.getElem?_eq_none beyond⟩

/-- A value holds the same at every place as the tree from which it was read, if no object of that
has two members of one name, by induction on the tree.
-/
theorem Distinct.faceAt?_ofValue (distinct : tree.Distinct)
    (read : tree.toValue? budget = some value) (path : List Place)
    : (ofValue value).faceAt? path = tree.faceAt? path := by
  induction distinct generalizing budget value path with
  | null =>
      cases read
      rfl
  | bool value =>
      cases read
      rfl
  | number number =>
      obtain ⟨number, rfl, rfl⟩ := Option.map_eq_some_iff.mp read
      rfl
  | text content =>
      obtain ⟨content, rfl, rfl⟩ := Option.map_eq_some_iff.mp read
      rfl
  | @array items _ ih =>
      cases budget with
      | zero => cases read
      | succ inner =>
          obtain ⟨values, each, rfl⟩ := Option.map_eq_some_iff.mp read
          rw [itemsToValues?_eq_some_iff] at each
          rw [ofValue, ofValues_eq_map]
          rcases path with _ | ⟨name | index, path⟩
          · rfl
          · rfl
          · simp only [faceAt?, child?, List.getElem?_map]
            rcases getElem?_of_forall₂ each index with
              ⟨absent, missing⟩ | ⟨item, among, value, held, found, read⟩
            · rw [absent, missing]
              rfl
            · rw [held, found]
              exact ih item among read path
  | @object members names _ ih =>
      cases budget with
      | zero => cases read
      | succ inner =>
          obtain ⟨pairs, each, rfl⟩ := Option.map_eq_some_iff.mp read
          rw [names_of_membersToValues? each] at names
          have filed := Table.get?_ofPairs names.of_map
          rcases path with _ | ⟨name | index, path⟩
          · rfl
          · rw [faceAt?, faceAt?, child?_ofValue_object]
            change (((Table.ofPairs pairs).get? name).map ofValue).bind _ = _
            rw [filed]
            rcases find?_of_membersToValues? each name with
              ⟨absent, missing⟩ | ⟨member, among, value, held, found, read⟩
            · rw [absent, missing]
              rfl
            · rw [held, found]
              exact ih member among read path
          · rfl

end Tree

end FleetOps.Json
