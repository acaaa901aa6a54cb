import FleetOps.Text.Form

/-! The routes of the service. A path fits a route exactly, piece by piece; the piece that
names a node or a size is handed on as it stands, with its escapes.
-/

namespace FleetOps.Service

/-- A route, with the piece of the path that varies. -/
inductive Route where
  | nodes
  | node (id : List UInt8)
  | history (id : List UInt8)
  | command (id : List UInt8)
  | servers
  | report
  | measure (size : List UInt8)

namespace Route

/-- The pieces of a path between slashes. -/
def pieces (path : List UInt8) : List (List UInt8) := Form.splitAt 47 path

/-- The bytes of a fixed piece. -/
def fixed (name : String) : List UInt8 := Utf8.encode name

/-- The route of a path. A varying piece at the end of a path is not empty. -/
def ofPath? (path : List UInt8) : Option Route :=
  match pieces path with
  | [[], first] =>
      if first == fixed "nodes" then some nodes
      else if first == fixed "servers" then some servers
      else if first == fixed "report" then some report
      else none
  | [[], first, second] =>
      if second.isEmpty then none
      else if first == fixed "nodes" then some (node second)
      else if first == fixed "measure" then some (measure second)
      else none
  | [[], first, second, third] =>
      if first == fixed "nodes" then
        if third == fixed "history" then some (history second)
        else if third == fixed "command" then some (command second)
        else none
      else none
  | _ => none

/-- The text of a varying piece, if its escapes leave well-formed text. -/
def pieceText? (piece : List UInt8) : Option String := Utf8.decode? (Percent.decode piece)

end Route

end FleetOps.Service
