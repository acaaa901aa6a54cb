import FleetOps.Http.Message

/-! Media types, as the content type of a request names one: a type and a subtype, perhaps
with a suffix, and parameters, which are only checked.
-/

namespace FleetOps.Http

/-- A media type in lowercase. -/
structure MediaType where
  type : String
  subtype : String
  suffix : Option String

namespace MediaType

/-- Whether a character may stand in a token. -/
def isTokenChar (c : Char) : Bool := c.toNat < 128 && Request.isTokenByte c.toNat.toUInt8

/-- Whether a character may stand in a quoted value. -/
def isQuotable (c : Char) : Bool := 31 < c.toNat && c.toNat != 127

/-- Where the reader of parameters is. -/
inductive Place where
  /-- Before the name of a parameter, where spaces may stand. -/
  | start
  | name
  /-- Right after the equals sign. -/
  | valueStart
  | value
  /-- In a quoted value, of which some part has been read or none. -/
  | quoted (begun : Bool)
  | afterQuoted

/-- Reads one character of the parameters. -/
def Place.step (place : Place) (c : Char) : Option Place :=
  match place with
  | start => if c == ' ' then some start else if isTokenChar c then some name else none
  | name => if c == '=' then some valueStart else if isTokenChar c then some name else none
  | valueStart =>
      if c == '"' then some (quoted false) else if isTokenChar c then some value else none
  | value => if c == ';' then some start else if isTokenChar c then some value else none
  | quoted begun =>
      if c == '"' && begun then some afterQuoted
      else if isQuotable c then some (quoted true)
      else none
  | afterQuoted =>
      if c == ';' then some start else if c == ' ' then some afterQuoted else none

/-- Whether parameters may end here. -/
def Place.isEnd : Place → Bool
  | start => true
  | name => false
  | valueStart => true
  | value => true
  | quoted _ => false
  | afterQuoted => true

/-- Whether characters are parameters. -/
def areParameters (s : List Char) : Bool :=
  match s.foldlM Place.step .start with
  | some place => place.isEnd
  | none => false

/-- The subtype and the suffix, which is what follows the last plus sign but a leading one. -/
def splitSuffix (s : List Char) : List Char × Option (List Char) :=
  let suffix := (s.reverse.takeWhile (· != '+')).reverse
  let before := s.take (s.length - suffix.length - 1)
  if suffix.length == s.length || before.isEmpty then (s, none) else (before, some suffix)

/-- Reads a media type. -/
def ofText? (text : String) : Option MediaType :=
  let s := text.toList
  let type := s.takeWhile isTokenChar
  match s.drop type.length with
  | '/' :: rest =>
      let full := rest.takeWhile isTokenChar
      let (subtype, suffix) := splitSuffix full
      let named : MediaType :=
        {
          type := Request.lowerName (String.ofList type)
          subtype := Request.lowerName (String.ofList subtype)
          suffix := suffix.map fun s => Request.lowerName (String.ofList s)
        }
      if type.isEmpty then none
      else
        match rest.drop full.length with
        | [] => some named
        | ';' :: parameters =>
            if !full.isEmpty && areParameters parameters then some named else none
        | _ => none
  | _ => none

/-- Whether a media type is one of the `application` types, by its subtype or suffix. -/
def isApplication (media : MediaType) (name : String) : Bool :=
  media.type == "application" && (media.subtype == name || media.suffix == some name)

end MediaType

/-- Whether the content of a request has a type, given by its name below `application`. -/
def Request.hasContentType (request : Request) (name : String) : Bool :=
  match (request.header? "content-type").bind MediaType.ofText? with
  | some media => media.isApplication name
  | none => false

end FleetOps.Http
