import FleetOps.Http.Address
import FleetOps.Http.Uri
import FleetOps.Text.Utf8

/-! Requests and responses of the HTTP layer. -/

namespace FleetOps.Http

/-- A request. The names of its headers are in lowercase. Reading the body may fail, with a
reason.
-/
structure Request where
  method : String
  uri : Uri
  headers : List (String × List UInt8)
  body : Except String (List UInt8)
  peer : Option Address

/-- The body of a response. A long run of zero bytes is not spelled out. -/
inductive Payload where
  | bytes (content : List UInt8)
  | zeros (count : Nat)

/-- A response. -/
structure Response where
  status : Nat
  contentType : Option String
  contentEncoding : Option String
  body : Payload

namespace Request

/-- Whether a byte may stand in a token. -/
def isTokenByte (b : UInt8) : Bool := Uri.isAlphanumeric b || Uri.isOneOf "!#$%&'*+-.^_|~" b
  || b == 96

/-- Whether a text is a token. -/
def isToken (s : String) : Bool := !s.isEmpty && (Utf8.encode s).all isTokenByte

/-- Whether a byte may stand in the value of a header. -/
def isValueByte (b : UInt8) : Bool := b == 9 || (32 ≤ b && b != 127)

/-- A name in lowercase; tokens have no letters but ASCII ones. -/
def lowerName (s : String) : String :=
  String.ofList
    (s.toList.map fun c =>
      if 65 ≤ c.toNat && c.toNat ≤ 90 then Char.ofNat (c.toNat + 32) else c)

/-- The request with given parts, if they make one. -/
def ofParts? (method target : String) (headers : List (String × List UInt8))
    (body : Except String (List UInt8)) (peer : Option Address)
    : Option Request := do
  let uri ← Uri.ofBytes? (Utf8.encode target)
  if isToken method && headers.all fun header =>
      isToken header.1 && header.2.all isValueByte then
    some
      {
        method := method
        uri := uri
        headers := headers.map fun header => (lowerName header.1, header.2)
        body := body
        peer := peer
      }
  else none

/-- A value as text, if it holds nothing but visible ASCII characters, spaces and tabs. -/
def valueText? (value : List UInt8) : Option String :=
  if value.all fun b => b == 9 || (32 ≤ b && b < 127) then
    some (String.ofList (value.map fun b => Char.ofNat b.toNat))
  else none

/-- The values of the headers with a name. -/
def values (request : Request) (name : String) : List (List UInt8) :=
  (request.headers.filter (·.1 == name)).map (·.2)

/-- The text of the first header with a name. -/
def header? (request : Request) (name : String) : Option String :=
  (request.values name).head?.bind valueText?

end Request

namespace Response

/-- A response of plain text. -/
def plain (status : Nat) (text : String) : Response :=
  {
    status := status
    contentType := some "text/plain; charset=utf-8"
    contentEncoding := none
    body := .bytes (Utf8.encode text)
  }

/-- A response without a body. -/
def empty (status : Nat) : Response :=
  { status := status, contentType := none, contentEncoding := none, body := .bytes [] }

/-- A response of some type. -/
def typed (status : Nat) (contentType : String) (body : Payload) : Response :=
  {
    status := status
    contentType := some contentType
    contentEncoding := none
    body := body
  }

/-- The response without its body. -/
def withoutBody (response : Response) : Response := { response with body := .bytes [] }

/-- Whether a response tells of success. -/
def isSuccess (response : Response) : Bool := response.status < 400

end Response

end FleetOps.Http
