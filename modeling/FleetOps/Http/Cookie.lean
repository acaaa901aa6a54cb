import FleetOps.Http.Message
import FleetOps.Text.Blank
import FleetOps.Text.Percent

/-! Cookies of a request: pairs of names and values, with their escapes undone. Of cookies
with one name the first counts.
-/

namespace FleetOps.Http.Cookie

/-- The pieces of characters between separators. -/
def splitChars (separator : Char) : List Char → List (List Char)
  | [] => [[]]
  | c :: rest =>
      if c == separator then [] :: splitChars separator rest
      else
        match splitChars separator rest with
        | [] => [[c]]
        | piece :: pieces => (c :: piece) :: pieces

/-- The cookie of a piece. A piece without an equals sign or a name is none, and so is one
whose escapes leave no well-formed text.
-/
def ofPiece? (piece : List Char) : Option (String × String) :=
  let name := Text.trimChars (piece.takeWhile (· != '='))
  match piece.dropWhile (· != '=') with
  | [] => none
  | _ :: rest =>
      if name.isEmpty then none
      else do
        let name ← Percent.decodeText? (String.ofList name)
        let value ← Percent.decodeText? (String.ofList (Text.trimChars rest))
        some (name, value)

/-- The cookies of a request, in order. -/
def all (request : Request) : List (String × String) :=
  (request.values "cookie").flatMap fun value =>
    match Request.valueText? value with
    | none => []
    | some text => (splitChars ';' text.toList).filterMap ofPiece?

/-- The value of the first cookie with a name. -/
def find? (request : Request) (name : String) : Option String :=
  ((all request).find? (·.1 == name)).map (·.2)

end FleetOps.Http.Cookie
