import FleetOps.Json.Reader
import FleetOps.Proofs.Json.Tokens
import FleetOps.Proofs.Text.Utf8

/-! The tree of JSON text that was written is that of the value that it was written from. A value is
written as a sequence of tokens, and a reader that wants a value is done with it after them.
-/

namespace FleetOps.Json

-----------------------------------------------------------------------------------------
-- The numbers of values and trees
-----------------------------------------------------------------------------------------

/-- The number is an integer that is read as such. -/
def Number.IsWord (number : Number) : Prop := ∃ n, number = .int n ∧ FitsWord n

/-- Something holds of all numbers of the value. -/
inductive Value.NumbersAre (among : Number → Prop) : Value → Prop
  | null : NumbersAre among .null
  | bool (value : Bool) : NumbersAre among (.bool value)
  | number {number : Number} (holds : among number) : NumbersAre among (.number number)
  | text (value : String) : NumbersAre among (.text value)
  | array {items : List Value} (each : ∀ item ∈ items, NumbersAre among item)
    : NumbersAre among (.array items)
  | object {members : List (String × Value)} (each : ∀ member ∈ members, NumbersAre among member.2)
    : NumbersAre among (.object members)

/-- Something holds of all numbers of the tree, readable or not. -/
inductive Tree.NumbersAre (among : Option Number → Prop) : Tree → Prop
  | null : NumbersAre among .null
  | bool (value : Bool) : NumbersAre among (.bool value)
  | number {number : Option Number} (holds : among number) : NumbersAre among (.number number)
  | text (content : Option String) : NumbersAre among (.text content)
  | array {items : List Tree} (each : ∀ item ∈ items, NumbersAre among item)
    : NumbersAre among (.array items)
  | object {members : List (Option String × Tree)}
    (each : ∀ member ∈ members, NumbersAre among member.2)
    : NumbersAre among (.object members)

/-- What follows of a number from two properties holds of all numbers that have both, by induction
on the value.
-/
theorem Value.NumbersAre.both {first second : Number → Prop} {value : Value}
    (one : value.NumbersAre first) (other : value.NumbersAre second) {result : Number → Prop}
    (follows : ∀ number, first number → second number → result number)
    : value.NumbersAre result := by
  induction one with
  | null => exact .null
  | bool value => exact .bool value
  | @number number holds =>
      cases other with
      | number also => exact .number (follows number holds also)
  | text value => exact .text value
  | array _ ih =>
      cases other with
      | array each => exact .array fun item among => ih item among (each item among)
  | object _ ih =>
      cases other with
      | object each => exact .object fun member among => ih member among (each member among)

-----------------------------------------------------------------------------------------
-- The tokens of a value
-----------------------------------------------------------------------------------------

mutual

/-- The tokens that a value is written as. -/
def Value.tokens : Value → List Token
  | .null => [.null]
  | .bool value => [.bool value]
  | .number value => [.number (some value)]
  | .text value => [.text (some value)]
  | .array items => .openArray :: (itemsTokens items ++ [.closeArray])
  | .object members => .openObject :: (membersTokens members ++ [.closeObject])

/-- The tokens of the items of an array. -/
def itemsTokens : List Value → List Token
  | [] => []
  | [item] => item.tokens
  | item :: rest => item.tokens ++ .comma :: itemsTokens rest

/-- The tokens of the members of an object. -/
def membersTokens : List (String × Value) → List Token
  | [] => []
  | [(name, value)] => .text (some name) :: .colon :: value.tokens
  | (name, value) :: rest =>
      .text (some name) :: .colon :: (value.tokens ++ .comma :: membersTokens rest)

end

/-- The characters are read as the tokens, wherever a numeral would end. -/
def Lexes (cs : List Char) (written : List Token) : Prop :=
  ∀ rest, EndsNumeral rest → tokens (symbolsOf cs ++ rest) = (tokens rest).map (written ++ ·)

/-- The character is a token, and ends a numeral before it. -/
structure IsMark (c : Char) (token : Token) : Prop where
  solid : isSpace c = false
  ends : Text.digit? c = none ∧ c ≠ '.' ∧ c ≠ 'e' ∧ c ≠ 'E'
  scanned : ∀ rest, scanToken c rest = some (token, rest)

theorem isMark_comma : IsMark ',' .comma := ⟨rfl, by decide, fun _ => rfl⟩

theorem isMark_colon : IsMark ':' .colon := ⟨rfl, by decide, fun _ => rfl⟩

theorem isMark_openArray : IsMark '[' .openArray := ⟨rfl, by decide, fun _ => rfl⟩

theorem isMark_closeArray : IsMark ']' .closeArray := ⟨rfl, by decide, fun _ => rfl⟩

theorem isMark_openObject : IsMark '\x7b' .openObject := ⟨rfl, by decide, fun _ => rfl⟩

theorem isMark_closeObject : IsMark '\x7d' .closeObject := ⟨rfl, by decide, fun _ => rfl⟩

namespace Lexes

variable {cs more : List Char} {written later : List Token} {c : Char} {token : Token}

/-- Nothing is scanned as no tokens. -/
theorem nil : Lexes [] [] := by
  intro rest _
  exact Option.map_id'.symm

/-- A mark is scanned as its token, and what follows it as its own. -/
theorem mark (isMark : IsMark c token) (lexes : Lexes cs written)
    : Lexes (c :: cs) (token :: written) := by
  intro rest ends
  have first := tokens_cons isMark.solid (isMark.scanned (symbolsOf cs ++ rest))
  rw [lexes rest ends, Option.map_map] at first
  exact first

/-- A mark ends what stands before it. -/
theorem append (lexes : Lexes cs written) (isMark : IsMark c token) (after : Lexes more later)
    : Lexes (cs ++ c :: more) (written ++ token :: later) := by
  intro rest ends
  have marked : EndsNumeral (symbolsOf (c :: more) ++ rest) := by
    intro d same
    obtain rfl : c = d := Option.some.inj (Option.some.inj same)
    exact isMark.ends
  rw [symbolsOf, List.map_append, List.append_assoc, lexes _ marked, mark isMark after rest ends,
    Option.map_map]
  simp [Function.comp_def]

/-- A text that was written is scanned as it is. -/
theorem string (s : String) : Lexes (stringChars s) [.text (some s)] :=
  fun rest _ => tokens_string s rest

/-- An integer that was written is scanned as it is. -/
theorem integer {n : Int} (fits : FitsWord n) : Lexes (integerChars n) [.number (some (.int n))] :=
  fun _ ends => tokens_integer fits ends

/-- A word is a token, whatever follows it. -/
theorem word {c : Char} {cs : List Char} {token : Token} (solid : isSpace c = false)
    (scanned : ∀ rest, scanToken c (symbolsOf cs ++ rest) = some (token, rest))
    : Lexes (c :: cs) [token] :=
  fun rest _ => tokens_cons solid (scanned rest)

/-- Items that are read as their tokens are so with commas between them, by induction over them. -/
theorem items {items : List Value} (each : ∀ item ∈ items, Lexes item.chars item.tokens)
    : Lexes (itemsChars items) (itemsTokens items) := by
  induction items with
  | nil => exact nil
  | cons item rest ih =>
      have first := each item List.mem_cons_self
      have after := ih fun item member => each item (List.mem_cons_of_mem _ member)
      cases rest with
      | nil => exact first
      | cons next rest => exact first.append isMark_comma after

/-- Members that were written are scanned one after another, with commas between them. -/
theorem members {members : List (String × Value)}
    (each : ∀ member ∈ members, Lexes member.2.chars member.2.tokens)
    : Lexes (membersChars members) (membersTokens members) := by
  induction members with
  | nil => exact nil
  | cons member rest ih =>
      obtain ⟨name, value⟩ := member
      have first : Lexes value.chars value.tokens := each (name, value) List.mem_cons_self
      have after := ih fun member among => each member (List.mem_cons_of_mem _ among)
      cases rest with
      | nil => exact (string name).append isMark_colon first
      | cons next rest =>
          exact (string name).append isMark_colon (first.append isMark_comma after)

end Lexes

/-- The text of a value is read as its tokens, by induction on the value. -/
theorem Value.NumbersAre.lexes {value : Value} (words : value.NumbersAre Number.IsWord)
    : Lexes value.chars value.tokens := by
  induction words with
  | null => exact .word rfl fun _ => rfl
  | bool value => cases value <;> exact .word rfl fun _ => rfl
  | number isWord =>
      obtain ⟨n, rfl, fits⟩ := isWord
      exact .integer fits
  | text value => exact .string value
  | array _ each => exact .mark isMark_openArray ((Lexes.items each).append isMark_closeArray .nil)
  | object _ each =>
      exact .mark isMark_openObject ((Lexes.members each).append isMark_closeObject .nil)

-----------------------------------------------------------------------------------------
-- The tree of the tokens of a value
-----------------------------------------------------------------------------------------

/-- The trees of the items are those of the values. -/
theorem Tree.ofValues_eq_map (items : List Value) : ofValues items = items.map ofValue := by
  induction items with
  | nil => rfl
  | cons item rest ih => rw [ofValues, ih, List.map_cons]

/-- The trees of the members are those of the values, under their names. -/
theorem Tree.ofMembers_eq_map (members : List (String × Value))
    : ofMembers members = members.map fun member => (some member.1, ofValue member.2) := by
  induction members with
  | nil => rfl
  | cons member rest ih => rw [ofMembers, ih, List.map_cons]

namespace Cursor

/-- The reader after some tokens. -/
def after (cursor : Cursor) (read : List Token) : Option Cursor := read.foldlM step cursor

section

variable (cursor : Cursor) (read later : List Token)

theorem after_nil : cursor.after [] = some cursor := rfl

theorem after_cons (token : Token)
    : cursor.after (token :: read) = (cursor.step token).bind (·.after read) := rfl

/-- Tokens that follow others are taken after them. -/
theorem after_append : cursor.after (read ++ later) = (cursor.after read).bind (·.after later) := by
  rw [after, List.foldlM_append]
  rfl

end

/-- A reader that wants a value is done with it after the tokens. -/
def Takes (written : List Token) (tree : Tree) : Prop :=
  ∀ frames, after { frames := frames, expect := .value } written = some (complete frames tree)

section

variable {outer : List Frame} {tree : Tree}

/-- An array that is open takes a tree as its next item. -/
theorem complete_array (items : List Tree)
    : complete (.array items :: outer) tree
      = { frames := .array (tree :: items) :: outer, expect := .separator } := rfl

/-- An object that is open takes a tree as its next member. -/
theorem complete_object (members : List (Option String × Tree)) (name : Option String)
    : complete (.object members name :: outer) tree
      = { frames := .object ((name, tree) :: members) none :: outer, expect := .separator } := rfl

/-- Items between commas are collected, by induction over them. -/
theorem after_items {item : Value} {items : List Value}
    (each : ∀ value ∈ item :: items, Takes value.tokens (.ofValue value)) (done : List Tree)
    : after { frames := .array done :: outer, expect := .value }
        (itemsTokens (item :: items) ++ [.closeArray])
      = some (complete outer (.array (done.reverse ++ (item :: items).map .ofValue))) := by
  induction items generalizing item done with
  | nil =>
      have first := each item List.mem_cons_self (.array done :: outer)
      rw [itemsTokens, after_append, first, complete_array]
      simp [after_cons, after_nil, step, continueAfter]
  | cons next rest ih =>
      have first := each item List.mem_cons_self (.array done :: outer)
      have later := ih (fun value member => each value (List.mem_cons_of_mem _ member))
        (.ofValue item :: done)
      rw [itemsTokens, List.append_assoc, after_append, first, complete_array]
      · rw [List.cons_append, Option.bind_some, after_cons]
        refine Eq.trans later ?_
        simp
      · nofun

/-- Members between commas are collected, by induction over them. -/
theorem after_members {member : String × Value} {members : List (String × Value)}
    (each : ∀ other ∈ member :: members, Takes other.2.tokens (.ofValue other.2))
    (done : List (Option String × Tree))
    : after { frames := outer, expect := .name done }
        (membersTokens (member :: members) ++ [.closeObject])
      = some
          (complete outer
            (.object
              (done.reverse
                ++ (member :: members).map fun other => (some other.1, .ofValue other.2)))) := by
  induction members generalizing member done with
  | nil =>
      obtain ⟨name, value⟩ := member
      have first := each (name, value) List.mem_cons_self (.object done (some name) :: outer)
      simp only [membersTokens, List.cons_append, after_cons, step, Option.bind_some]
      rw [after_append, first, complete_object]
      simp [after_cons, after_nil, step, continueAfter]
  | cons next rest ih =>
      obtain ⟨name, value⟩ := member
      have first := each (name, value) List.mem_cons_self (.object done (some name) :: outer)
      have later := ih (fun other among => each other (List.mem_cons_of_mem _ among))
        ((some name, .ofValue value) :: done)
      rw [membersTokens]
      · simp only [List.cons_append, after_cons, step, Option.bind_some]
        rw [List.append_assoc, after_append, first, complete_object, List.cons_append,
          Option.bind_some, after_cons]
        refine Eq.trans later ?_
        simp
      · nofun

end

/-- Where an array may be closed as well, anything else is read as a value. -/
theorem after_orClose {token : Token} (other : token ≠ .closeArray) (frames : List Frame)
    (read : List Token)
    : after { frames := frames, expect := .valueOrClose } (token :: read)
      = after { frames := frames, expect := .value } (token :: read) := by
  rw [after_cons, after_cons]
  unfold step
  dsimp only
  split
  · exact absurd rfl other
  · rfl

/-- A value begins with a token that ends no array. -/
theorem tokens_begin (value : Value)
    : ∃ token rest, value.tokens = token :: rest ∧ token ≠ .closeArray := by
  cases value <;> exact ⟨_, _, rfl, nofun⟩

/-- An array is taken item by item. -/
theorem takes_array {items : List Value}
    (each : ∀ item ∈ items, Takes item.tokens (.ofValue item))
    : Takes (Value.array items).tokens (.ofValue (.array items)) := by
  intro frames
  rw [Value.tokens, Tree.ofValue, Tree.ofValues_eq_map]
  cases items with
  | nil => rfl
  | cons item rest =>
      obtain ⟨token, more, begins, other⟩ := tokens_begin item
      have opened : ∃ more, itemsTokens (item :: rest) = token :: more := by
        cases rest with
        | nil => exact ⟨more, begins⟩
        | cons next rest =>
            refine ⟨more ++ .comma :: itemsTokens (next :: rest), ?_⟩
            rw [itemsTokens, begins]
            · rfl
            · nofun
      obtain ⟨more, opened⟩ := opened
      have collected : after { frames := .array [] :: frames, expect := .value } _ = _ :=
        after_items each []
      rw [opened, List.cons_append] at collected ⊢
      exact (after_orClose other (.array [] :: frames) _).trans collected

/-- An object is taken member by member. -/
theorem takes_object {members : List (String × Value)}
    (each : ∀ member ∈ members, Takes member.2.tokens (.ofValue member.2))
    : Takes (Value.object members).tokens (.ofValue (.object members)) := by
  intro frames
  rw [Value.tokens, Tree.ofValue, Tree.ofMembers_eq_map]
  cases members with
  | nil => rfl
  | cons member rest =>
      have collected : after { frames := frames, expect := .name [] } _ = _ :=
        after_members each []
      obtain ⟨name, value⟩ := member
      cases rest <;> exact collected

/-- A reader takes every value from its tokens, by induction on the value. -/
theorem takes_value {value : Value} (words : value.NumbersAre Number.IsWord)
    : Takes value.tokens (.ofValue value) := by
  induction words with
  | null => exact fun _ => rfl
  | bool => exact fun _ => rfl
  | number => exact fun _ => rfl
  | text => exact fun _ => rfl
  | array _ each => exact takes_array each
  | object _ each => exact takes_object each

end Cursor

namespace Tree

/-- The text of a value is read as the tree of the value. -/
theorem ofText?_render {value : Value} (words : value.NumbersAre Number.IsWord)
    : ofText? value.render = some (ofValue value) := by
  have lexed := words.lexes [] nofun
  rw [List.append_nil, tokens_nil, Option.map_some, List.append_nil] at lexed
  rw [ofText?, Value.render, String.toList_ofList, ofSymbols?, lexed, Option.bind_some, ofTokens?]
  exact congrArg (Option.bind · Cursor.tree?) (Cursor.takes_value words [])

/-- The bytes of a text are read as the text is. -/
theorem ofBytes?_encode (s : String) : ofBytes? (Utf8.encode s) = ofText? s :=
  congrArg ofSymbols? (Utf8.read_eq_map_some_iff.mpr rfl)

end Tree

-----------------------------------------------------------------------------------------
-- The numbers of trees that were read
-----------------------------------------------------------------------------------------

namespace Cursor

variable {among : Option Number → Prop}

/-- What an open bracket holds so far. -/
def heldIn : Frame → List Tree
  | .array items => items
  | .object members _ => members.map (·.2)

/-- What is known of what comes next. -/
def heldFor : Expectation → List Tree
  | .name members => members.map (·.2)
  | .colon members _ => members.map (·.2)
  | .finished tree => [tree]
  | _ => []

/-- Something holds of all numbers that were read. -/
structure NumbersAre (among : Option Number → Prop) (cursor : Cursor) : Prop where
  frames : ∀ frame ∈ cursor.frames, ∀ tree ∈ heldIn frame, tree.NumbersAre among
  expect : ∀ tree ∈ heldFor cursor.expect, tree.NumbersAre among

/-- A tree that is completed adds its own numbers to those held. -/
theorem numbersAre_complete {frames : List Frame} {tree : Tree}
    (held : ∀ frame ∈ frames, ∀ tree ∈ heldIn frame, tree.NumbersAre among) (holds : tree.NumbersAre among)
    : (complete frames tree).NumbersAre among := by
  cases frames with
  | nil => exact ⟨nofun, List.forall_mem_singleton.mpr holds⟩
  | cons frame outer =>
      obtain ⟨inner, others⟩ := List.forall_mem_cons.mp held
      have more := List.forall_mem_cons.mpr ⟨holds, inner⟩
      cases frame with
      | array items => exact ⟨List.forall_mem_cons.mpr ⟨more, others⟩, nofun⟩
      | object members name => exact ⟨List.forall_mem_cons.mpr ⟨more, others⟩, nofun⟩

/-- A value that begins adds its own numbers to those held. -/
theorem numbersAre_beginValue {frames : List Frame} {token : Token} {later : Cursor}
    (held : ∀ frame ∈ frames, ∀ tree ∈ heldIn frame, tree.NumbersAre among) (holds : token.NumberIs among)
    (begins : beginValue frames token = some later)
    : later.NumbersAre among := by
  cases token with
  | null => cases begins; exact numbersAre_complete held .null
  | bool value => cases begins; exact numbersAre_complete held (.bool value)
  | number value =>
      cases begins
      exact numbersAre_complete held (.number (holds value rfl))
  | text content => cases begins; exact numbersAre_complete held (.text content)
  | openArray => cases begins; exact ⟨List.forall_mem_cons.mpr ⟨nofun, held⟩, nofun⟩
  | openObject => cases begins; exact ⟨held, nofun⟩
  | _ => cases begins

/-- An object has the numbers of its members. -/
theorem numbersAre_object {members : List (Option String × Tree)}
    (held : ∀ tree ∈ members.map (·.2), tree.NumbersAre among)
    : (Tree.object members.reverse).NumbersAre among :=
  .object fun _ read => held _ (List.mem_map_of_mem (List.mem_reverse.mp read))

/-- What follows a value adds no numbers to those held. -/
theorem numbersAre_continueAfter {frames : List Frame} {token : Token} {later : Cursor}
    (held : ∀ frame ∈ frames, ∀ tree ∈ heldIn frame, tree.NumbersAre among)
    (continues : continueAfter frames token = some later)
    : later.NumbersAre among := by
  unfold continueAfter at continues
  split at continues
  next items outer =>
    cases continues
    exact ⟨held, nofun⟩
  next items outer =>
    cases continues
    obtain ⟨inner, others⟩ := List.forall_mem_cons.mp held
    refine numbersAre_complete others (.array fun item among => ?_)
    exact inner item (List.mem_reverse.mp among)
  next members name outer =>
    cases continues
    obtain ⟨inner, others⟩ := List.forall_mem_cons.mp held
    exact ⟨others, inner⟩
  next members name outer =>
    cases continues
    obtain ⟨inner, others⟩ := List.forall_mem_cons.mp held
    exact numbersAre_complete others (numbersAre_object inner)
  next => cases continues

/-- Every token keeps what holds of the numbers, by cases on what was expected. -/
theorem NumbersAre.step {cursor later : Cursor} {token : Token} (fit : cursor.NumbersAre among)
    (holds : token.NumberIs among) (steps : cursor.step token = some later)
    : later.NumbersAre among := by
  obtain ⟨frames, expect⟩ := cursor
  obtain ⟨held, known⟩ := fit
  cases expect with
  | value => exact numbersAre_beginValue held holds steps
  | valueOrClose =>
      simp only [Cursor.step] at steps
      split at steps
      next items outer =>
        cases steps
        exact numbersAre_complete (List.forall_mem_cons.mp held).2 (.array nofun)
      next => exact numbersAre_beginValue held holds steps
  | nameOrClose =>
      cases token with
      | closeObject => cases steps; exact numbersAre_complete held (.object nofun)
      | text name => cases steps; exact ⟨held, nofun⟩
      | _ => cases steps
  | name members =>
      cases token with
      | text name => cases steps; exact ⟨held, known⟩
      | _ => cases steps
  | colon members name =>
      cases token with
      | colon => cases steps; exact ⟨List.forall_mem_cons.mpr ⟨known, held⟩, nofun⟩
      | _ => cases steps
  | separator => exact numbersAre_continueAfter held steps
  | finished tree => cases steps

/-- So does every run of tokens, by induction over them. -/
theorem NumbersAre.after {cursor later : Cursor} {read : List Token} (fit : cursor.NumbersAre among)
    (holds : ∀ token ∈ read, token.NumberIs among) (steps : cursor.after read = some later)
    : later.NumbersAre among := by
  induction read generalizing cursor with
  | nil =>
      cases steps
      exact fit
  | cons token rest ih =>
      obtain ⟨first, others⟩ := List.forall_mem_cons.mp holds
      obtain ⟨next, stepped, more⟩ := Option.bind_eq_some_iff.mp steps
      exact ih (fit.step first stepped) others more

end Cursor

/-- The integers of a tree that was read fit. -/
theorem Tree.numbersAre_of_read {input : Symbols} {tree : Tree}
    (read : ofSymbols? input = some tree)
    : tree.NumbersAre IntegerFits := by
  obtain ⟨written, lexed, parsed⟩ := Option.bind_eq_some_iff.mp read
  obtain ⟨cursor, steps, finished⟩ := Option.bind_eq_some_iff.mp parsed
  have start : Cursor.start.NumbersAre IntegerFits := ⟨nofun, nofun⟩
  have held := start.after (tokens_fit lexed) steps
  unfold Cursor.tree? at finished
  split at finished
  next done expect =>
    cases finished
    exact held.expect tree (expect ▸ List.mem_singleton_self tree)
  next => cases finished

end FleetOps.Json
