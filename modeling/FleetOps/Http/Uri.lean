/-! The target of a request: a path and perhaps a query, alone or after a scheme and an
authority. Which characters may stand where is checked on the bytes.
-/

namespace FleetOps.Http

/-- What a target says about the resource. -/
structure Uri where
  path : List UInt8
  query : Option (List UInt8)

namespace Uri

/-- Whether a byte is a letter or a digit. -/
def isAlphanumeric (b : UInt8) : Bool :=
  (48 ≤ b && b ≤ 57) || (65 ≤ b && b ≤ 90) || (97 ≤ b && b ≤ 122)

/-- Whether a byte is one of the characters of a text. -/
def isOneOf (characters : String) (b : UInt8) : Bool :=
  characters.toList.any fun c => c.toNat == b.toNat

/-- Whether a byte may stand in a path. -/
def inPath (b : UInt8) : Bool :=
  b == 0x21 || b == 0x22 || (0x24 ≤ b && b ≤ 0x3B) || b == 0x3D || (0x40 ≤ b && b ≤ 0x5F)
    || 0x61 ≤ b

/-- Whether a byte may stand in a query. -/
def inQuery (b : UInt8) : Bool :=
  b == 0x21 || (0x24 ≤ b && b ≤ 0x3B) || b == 0x3D || 0x3F ≤ b

/-- Whether a byte may stand in an authority, apart from the percent sign. -/
def inAuthority (b : UInt8) : Bool :=
  isAlphanumeric b || isOneOf "!$&'()*+,-.:;=@[]_~" b

/-- Whether a byte may stand in a scheme. -/
def inScheme (b : UInt8) : Bool := isAlphanumeric b || isOneOf "+-." b

/-- Whether a byte ends an authority. -/
def endsAuthority (b : UInt8) : Bool := isOneOf "/?#" b

/-- The bytes before a fragment. -/
def withoutFragment (bytes : List UInt8) : List UInt8 := bytes.takeWhile (· != 35)

/-- Reads a path and a query. A target that starts with neither has an empty path. -/
def ofPathAndQuery? (bytes : List UInt8) : Option Uri :=
  let visible := withoutFragment bytes
  let path := visible.takeWhile (· != 63)
  let rest := visible.dropWhile (· != 63)
  let query := rest.drop 1
  if path.all inPath && query.all inQuery then
    some { path := path, query := if rest.isEmpty then none else some query }
  else none

/-- What has been seen of an authority. -/
structure AuthorityScan where
  colons : Nat
  opened : Bool
  closed : Bool
  percent : Bool
  atEnd : Bool

/-- Reads one byte of an authority. A closing bracket and an at sign make the colons and
percent signs before them part of something else.
-/
def AuthorityScan.step (scan : AuthorityScan) (b : UInt8) : Option AuthorityScan :=
  let moved := { scan with atEnd := false }
  if b == 58 then some { moved with colons := scan.colons + 1 }
  else if b == 91 then
    if scan.percent || scan.opened then none else some { moved with opened := true }
  else if b == 93 then
    if !scan.opened || scan.closed then none
    else some { moved with closed := true, colons := 0, percent := false }
  else if b == 64 then some { moved with atEnd := true, colons := 0, percent := false }
  else if b == 37 then some { moved with percent := true }
  else if inAuthority b then some moved
  else none

/-- Whether bytes are an authority. -/
def isAuthority (bytes : List UInt8) : Bool :=
  let start : AuthorityScan :=
    { colons := 0, opened := false, closed := false, percent := false, atEnd := false }
  match bytes.foldlM AuthorityScan.step start with
  | none => false
  | some scan => scan.opened == scan.closed && scan.colons ≤ 1 && !scan.atEnd && !scan.percent

/-- The bytes after a scheme and the two slashes that follow it. -/
def afterScheme? (bytes : List UInt8) : Option (List UInt8) :=
  let scheme := bytes.takeWhile inScheme
  match bytes.drop scheme.length with
  | 58 :: 47 :: 47 :: rest => if scheme.isEmpty then none else some rest
  | _ => none

/-- Reads the part after a scheme. -/
def ofHierarchy? (bytes : List UInt8) : Option Uri :=
  let authority := bytes.takeWhile fun b => !endsAuthority b
  if authority.isEmpty || !isAuthority authority then none
  else do
    let uri ← ofPathAndQuery? (bytes.drop authority.length)
    some (if uri.path.isEmpty then { uri with path := [47] } else uri)

/-- The longest target that is read. -/
def maxLength : Nat := 65534

/-- Reads a target. -/
def ofBytes? (bytes : List UInt8) : Option Uri :=
  if maxLength < bytes.length then none
  else
    match bytes with
    | [] => none
    | 47 :: _ => ofPathAndQuery? bytes
    | [42] => some { path := [42], query := none }
    | _ =>
        match afterScheme? bytes with
        | some rest => ofHierarchy? rest
        | none => if isAuthority bytes then some { path := [], query := none } else none

end Uri

end FleetOps.Http
