import FleetOps.Encoding.Gzip
import FleetOps.Http.Cookie

/-! Codings of bodies. A request may come in one, and names those it takes for the response.
Names are in lowercase; others count for nothing.
-/

namespace FleetOps.Http

/-- A coding. -/
inductive Coding where
  | gzip
  | deflate
  | brotli
  | zstandard

/-- What reads the bodies in the codings that are not read here. -/
structure Decoders where
  brotli : List UInt8 → Option (List UInt8)
  zstandard : List UInt8 → Option (List UInt8)

/-- Decoders to which every body counts as damaged. -/
def Decoders.absent : Decoders :=
  {
    brotli := fun _ => none
    zstandard := fun _ => none
  }

namespace Coding

/-- The coding with a name. -/
def ofName? (name : String) : Option Coding :=
  match name with
  | "gzip" => some gzip
  | "deflate" => some deflate
  | "br" => some brotli
  | "zstd" => some zstandard
  | _ => none

/-- The name of a coding. -/
def name : Coding → String
  | gzip => "gzip"
  | deflate => "deflate"
  | brotli => "br"
  | zstandard => "zstd"

/-- The data of a body, if it is not damaged. -/
def decode? (decoders : Decoders) (coding : Coding) (bytes : List UInt8) : Option (List UInt8) :=
  match coding with
  | gzip => Gzip.decode? bytes
  | deflate => Inflate.decode? bytes
  | brotli => decoders.brotli bytes
  | zstandard => decoders.zstandard bytes

/-- Which of two codings that are equally welcome is taken: the one of higher rank. -/
def rank : Coding → Nat
  | zstandard => 0
  | deflate => 1
  | gzip => 2
  | brotli => 3

/-- A weight in thousandths: a decimal fraction, of which three places count. -/
def weight? (s : List Char) : Option Nat :=
  let whole := s.takeWhile (· != '.')
  let places := (s.dropWhile (· != '.')).drop 1
  let digits := whole ++ places
  if digits.isEmpty || !digits.all fun c => (Text.digit? c).isSome then none
  else
    let padded := (places ++ ['0', '0', '0']).take 3
    some ((whole ++ padded).foldl (fun n c => n * 10 + (Text.digit? c).getD 0) 0)

/-- Splits a text at the first place where a mark stands. -/
def splitAtMark (mark : List Char) : List Char → Option (List Char × List Char)
  | [] => if mark.isEmpty then some ([], []) else none
  | c :: rest =>
      if mark.isPrefixOf (c :: rest) then some ([], (c :: rest).drop mark.length)
      else (splitAtMark mark rest).map fun (before, after) => (c :: before, after)

/-- A coding that a request takes, with its weight. -/
def offer? (piece : List Char) : Option (Coding × Nat) :=
  match splitAtMark ";q=".toList piece with
  | some (name, weight) => do
      let weight ← weight? weight
      let coding ← ofName? (String.ofList name)
      some (coding, weight)
  | none => (ofName? (String.ofList piece)).map (·, 1000)

/-- The codings that a request takes for the response. -/
def offers (request : Request) : List (Coding × Nat) :=
  (request.values "accept-encoding").flatMap fun value =>
    match Request.valueText? value with
    | none => []
    | some text =>
        (Cookie.splitChars ',' text.toList).filterMap fun piece =>
          offer? (Text.trimChars piece)

/-- Whether one offer is at least as good as another. -/
def isAtLeast (left right : Coding × Nat) : Bool :=
  right.2 < left.2 || (right.2 == left.2 && right.1.rank ≤ left.1.rank)

/-- The best coding that a request takes, if it takes one. -/
def best? (request : Request) : Option Coding :=
  ((offers request).foldl
    (fun best offer =>
      match best with
      | none => some offer
      | some other => if isAtLeast offer other then some offer else some other)
    none).map (·.1)

/-- The coding in which the body of a request comes. -/
def ofRequest? (request : Request) : Option Coding :=
  (request.header? "content-encoding").bind ofName?

end Coding

/-- The request with its body decoded. A damaged body cannot be read. -/
def Request.decoded (request : Request) (decoders : Decoders) : Request :=
  match Coding.ofRequest? request with
  | none => request
  | some coding =>
      {
        request with
        body :=
          match request.body with
          | .error reason => .error reason
          | .ok bytes =>
              match coding.decode? decoders bytes with
              | some data => .ok data
              | none => .error "damaged body"
      }

/-- The response in the coding that a request prefers; failures stay as they are. -/
def Response.encodedFor (response : Response) (request : Request) : Response :=
  if response.isSuccess then
    { response with contentEncoding := (Coding.best? request).map Coding.name }
  else response

end FleetOps.Http
