import FleetOps.Json.Tree
import FleetOps.Table

/-! Values and records from JSON trees. Where content is wanted, unreadable strings and
numbers and too many open brackets are refused; of members with one name the last counts. A
record is an object of declared fields, each at most once, or an array of them in order.
-/

namespace FleetOps.Json

/-- How many brackets may be open at once. -/
def maxOpenBrackets : Nat := 127

namespace Tree

mutual

/-- The value of a tree with at most `budget` open brackets. -/
def toValue? (budget : Nat) : Tree → Option Value
  | .null => some .null
  | .bool value => some (.bool value)
  | .number value => value.map .number
  | .text content => content.map .text
  | .array items =>
      match budget with
      | 0 => none
      | inner + 1 => (itemsToValues? inner items).map .array
  | .object members =>
      match budget with
      | 0 => none
      | inner + 1 => (membersToValues? inner members).map fun pairs =>
          .object (Table.ofPairs pairs).pairs

/-- The values of the items of an array. -/
def itemsToValues? (budget : Nat) : List Tree → Option (List Value)
  | [] => some []
  | item :: rest =>
      match item.toValue? budget, itemsToValues? budget rest with
      | some value, some values => some (value :: values)
      | _, _ => none

/-- The names and values of the members of an object. -/
def membersToValues? (budget : Nat)
    : List (Option String × Tree) → Option (List (String × Value))
  | [] => some []
  | (name, item) :: rest =>
      match name, item.toValue? budget, membersToValues? budget rest with
      | some name, some value, some values => some ((name, value) :: values)
      | _, _, _ => none

end

mutual

/-- The tree of a value. -/
def ofValue : Value → Tree
  | .null => .null
  | .bool value => .bool value
  | .number value => .number (some value)
  | .text value => .text (some value)
  | .array items => .array (ofValues items)
  | .object members => .object (ofMembers members)

/-- The trees of the items of an array. -/
def ofValues : List Value → List Tree
  | [] => []
  | item :: rest => ofValue item :: ofValues rest

/-- The trees of the members of an object. -/
def ofMembers : List (String × Value) → List (Option String × Tree)
  | [] => []
  | (name, value) :: rest => (some name, ofValue value) :: ofMembers rest

end

mutual

/-- How many brackets of a tree are open at once. -/
def depth : Tree → Nat
  | .array items => itemsDepth items + 1
  | .object members => membersDepth members + 1
  | _ => 0

/-- The greatest depth among items. -/
def itemsDepth : List Tree → Nat
  | [] => 0
  | item :: rest => max item.depth (itemsDepth rest)

/-- The greatest depth among members. -/
def membersDepth : List (Option String × Tree) → Nat
  | [] => 0
  | (_, item) :: rest => max item.depth (membersDepth rest)

end

/-- The members of an object whose names are all readable. -/
def members? : Tree → Option (List (String × Tree))
  | .object members => members.mapM fun member => member.1.map (·, member.2)
  | _ => none

/-- The fields of a record, whose names are declared in order: the members of an object, or
the items of an array that is not longer than the declaration.
-/
def fields? (names : List String) : Tree → Option (List (String × Tree))
  | .array items => if items.length ≤ names.length then some (names.zip items) else none
  | tree => tree.members?

/-- A readable string. -/
def text? : Tree → Option String
  | .text content => content
  | _ => none

/-- A truth value. -/
def bool? : Tree → Option Bool
  | .bool value => some value
  | _ => none

/-- An integer between two bounds. -/
def int? (least greatest : Int) : Tree → Option Int
  | .number (some (.int value)) =>
      if least ≤ value && value ≤ greatest then some value else none
  | _ => none

/-- A signed integer of 64 bits. -/
def signed64? : Tree → Option Int := int? (-0x8000000000000000) 0x7FFFFFFFFFFFFFFF

/-- A port number. -/
def port? (tree : Tree) : Option UInt16 :=
  (tree.int? 0 0xFFFF).map fun value => value.toNat.toUInt16

/-- The items of an array. -/
def items? : Tree → Option (List Tree)
  | .array items => some items
  | _ => none

end Tree

/-- The named parts of a record. -/
abbrev Fields := List (String × Tree)

namespace Fields

/-- What is found under a declared name, which at most one field may have. -/
def find? (fields : Fields) (name : String) : Option (Option Tree) :=
  match fields.filter (·.1 == name) with
  | [] => some none
  | [field] => some (some field.2)
  | _ => none

/-- Reads a field that must be there. -/
def required? {α : Type} (fields : Fields) (name : String) (read : Tree → Option α)
    : Option α :=
  match fields.find? name with
  | some (some tree) => read tree
  | _ => none

/-- Reads a field that has a default. -/
def optional? {α : Type} (fields : Fields) (name : String) (read : Tree → Option α)
    (default : α)
    : Option α :=
  match fields.find? name with
  | some (some tree) => read tree
  | some none => some default
  | none => none

/-- The fields with names that are not declared. -/
def undeclared (fields : Fields) (names : List String) : Fields :=
  fields.filter fun field => !names.contains field.1

end Fields

namespace Value

/-- The value of a text. -/
def ofText? (s : String) : Option Value := (Tree.ofText? s).bind (·.toValue? maxOpenBrackets)

/-- The value under a name of an object. -/
def get? : Value → String → Option Value
  | .object members, name => Named.find? name members
  | _, _ => none

end Value

end FleetOps.Json
