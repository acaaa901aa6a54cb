import FleetOps.Json.Token
import FleetOps.Text.Utf8

/-! The bracket structure of JSON text. A tree keeps members in the order of the text, also
those with one name, and unreadable strings and numbers, so that each reader decides what it
passes over.
-/

namespace FleetOps.Json

/-- What the brackets of a text enclose. -/
inductive Tree where
  | null
  | bool (value : Bool)
  | number (value : Option Number)
  | text (content : Option String)
  | array (items : List Tree)
  | object (members : List (Option String × Tree))

/-- A bracket that is still open: what it holds so far, the latest first. -/
inductive Frame where
  | array (items : List Tree)
  | object (members : List (Option String × Tree)) (name : Option String)

/-- What may come next. -/
inductive Expectation where
  | value
  | valueOrClose
  | name (members : List (Option String × Tree))
  | nameOrClose
  | colon (members : List (Option String × Tree)) (name : Option String)
  | separator
  | finished (tree : Tree)

/-- A reader between two tokens: the open brackets, the innermost first. -/
structure Cursor where
  frames : List Frame
  expect : Expectation

namespace Cursor

/-- The reader before the first token. -/
def start : Cursor :=
  { frames := [], expect := .value }

/-- The reader after a complete value. -/
def complete (frames : List Frame) (tree : Tree) : Cursor :=
  match frames with
  | [] => { frames := [], expect := .finished tree }
  | .array items :: outer =>
      { frames := .array (tree :: items) :: outer, expect := .separator }
  | .object members name :: outer =>
      { frames := .object ((name, tree) :: members) none :: outer, expect := .separator }

/-- Reads the first token of a value. -/
def beginValue (frames : List Frame) (token : Token) : Option Cursor :=
  match token with
  | .null => some (complete frames .null)
  | .bool value => some (complete frames (.bool value))
  | .number value => some (complete frames (.number value))
  | .text content => some (complete frames (.text content))
  | .openArray => some { frames := .array [] :: frames, expect := .valueOrClose }
  | .openObject => some { frames := frames, expect := .nameOrClose }
  | _ => none

/-- Reads a token inside or after a bracket's content. -/
def continueAfter (frames : List Frame) (token : Token) : Option Cursor :=
  match frames, token with
  | .array items :: outer, .comma => some { frames := .array items :: outer, expect := .value }
  | .array items :: outer, .closeArray => some (complete outer (.array items.reverse))
  | .object members _ :: outer, .comma => some { frames := outer, expect := .name members }
  | .object members _ :: outer, .closeObject =>
      some (complete outer (.object members.reverse))
  | _, _ => none

/-- Reads one token. -/
def step (cursor : Cursor) (token : Token) : Option Cursor :=
  match cursor.expect with
  | .value => beginValue cursor.frames token
  | .valueOrClose =>
      match cursor.frames, token with
      | .array _ :: outer, .closeArray => some (complete outer (.array []))
      | frames, token => beginValue frames token
  | .nameOrClose =>
      match token with
      | .closeObject => some (complete cursor.frames (.object []))
      | .text name => some { frames := cursor.frames, expect := .colon [] name }
      | _ => none
  | .name members =>
      match token with
      | .text name => some { frames := cursor.frames, expect := .colon members name }
      | _ => none
  | .colon members name =>
      match token with
      | .colon => some { frames := .object members name :: cursor.frames, expect := .value }
      | _ => none
  | .separator => continueAfter cursor.frames token
  | .finished _ => none

/-- The tree of a reader that has seen all of it. -/
def tree? (cursor : Cursor) : Option Tree :=
  match cursor.expect with
  | .finished tree => some tree
  | _ => none

end Cursor

namespace Tree

/-- The tree of a token sequence. -/
def ofTokens? (tokens : List Token) : Option Tree :=
  (tokens.foldlM Cursor.step Cursor.start).bind Cursor.tree?

/-- The tree of input with unreadable pieces. -/
def ofSymbols? (input : Symbols) : Option Tree := (tokens input).bind ofTokens?

/-- The tree of a text. -/
def ofText? (s : String) : Option Tree := ofSymbols? (s.toList.map some)

/-- The tree of bytes. -/
def ofBytes? (bytes : List UInt8) : Option Tree := ofSymbols? (Utf8.symbols bytes)

end Tree

end FleetOps.Json
