import FleetOps.Text.Numeral

/-! Internet addresses, as a peer has one: read from the usual notations and written in the
shortest.
-/

namespace FleetOps.Http

/-- An address of four bytes or of eight groups of sixteen bits. -/
inductive Address where
  | v4 (bytes : List Nat)
  | v6 (groups : List Nat)

namespace Address

/-- The number of up to `most` digits in base `radix` at the head of the text, if it fits
`limit`, and the text after it.
-/
def number? (radix most limit : Nat) (s : List Char) : Option (Nat × List Char) :=
  let value? (c : Char) : Option Nat := (Text.hexDigit? c).filter (· < radix)
  let digits := s.takeWhile fun c => (value? c).isSome
  let n := digits.foldl (fun n c => n * radix + (value? c).getD 0) 0
  if digits.isEmpty || most < digits.length || limit < n then none
  else some (n, s.drop digits.length)

/-- A decimal number below 256 without needless zeros. -/
def byte? (s : List Char) : Option (Nat × List Char) := do
  let (n, rest) ← number? 10 3 255 s
  let digits := s.length - rest.length
  if s.head? == some '0' && 1 < digits then none else some (n, rest)

/-- The text after a given character. -/
def skip? (c : Char) : List Char → Option (List Char)
  | first :: rest => if first == c then some rest else none
  | [] => none

/-- An address of four bytes with dots between them. -/
def bytes? (s : List Char) : Option (List Nat × List Char) := do
  let (a, s) ← byte? s
  let s ← skip? '.' s
  let (b, s) ← byte? s
  let s ← skip? '.' s
  let (c, s) ← byte? s
  let s ← skip? '.' s
  let (d, s) ← byte? s
  some ([a, b, c, d], s)

/-- Reads up to `room` groups with colons between them, of which the last two may be an
address of four bytes; tells whether they are. A colon stands before each group but the
first.
-/
def groups (first : Bool) : Nat → List Char → List Nat × Bool × List Char
  | 0, s => ([], false, s)
  | room + 1, s =>
      let start? := if first then some s else skip? ':' s
      let embedded? := if room == 0 then none else start?.bind bytes?
      match embedded? with
      | some ([a, b, c, d], rest) => ([a * 256 + b, c * 256 + d], true, rest)
      | _ =>
          match start?.bind (number? 16 4 0xFFFF) with
          | none => ([], false, s)
          | some (group, rest) =>
              let (others, embedded, after) := groups false room rest
              (group :: others, embedded, after)

/-- An address of eight groups, of which one run of zeros may be left out. -/
def groups? (s : List Char) : Option (List Nat × List Char) :=
  let (front, embedded, rest) := groups true 8 s
  if front.length == 8 then some (front, rest)
  else if embedded then none
  else do
    let rest ← skip? ':' rest
    let rest ← skip? ':' rest
    let (back, _, after) := groups true (7 - front.length) rest
    some (front ++ List.replicate (8 - front.length - back.length) 0 ++ back, after)

/-- The end of the text, after a colon and a port. -/
def portEnds (s : List Char) : Bool :=
  match (skip? ':' s).bind (number? 10 s.length 0xFFFF) with
  | some (_, []) => true
  | _ => false

/-- The text after a scope, which counts for nothing. -/
def skipScope (s : List Char) : List Char :=
  match (skip? '%' s).bind (number? 10 s.length 0xFFFFFFFF) with
  | some (_, rest) => rest
  | none => s

/-- The address of a peer, given with a port. -/
def ofPeer? (peer : String) : Option Address :=
  match peer.toList with
  | '[' :: rest => do
      let (groups, after) ← groups? rest
      let after ← skip? ']' (skipScope after)
      if portEnds after then some (.v6 groups) else none
  | s => do
      let (bytes, after) ← bytes? s
      if portEnds after then some (.v4 bytes) else none

/-- Bytes with dots between them. -/
def dotted (bytes : List Nat) : String := String.intercalate "." (bytes.map toString)

/-- A group in lowercase hexadecimal digits. -/
def groupText (group : Nat) : String := String.ofList (Nat.toDigits 16 group)

/-- Groups with colons between them. -/
def colons (groups : List Nat) : String := String.intercalate ":" (groups.map groupText)

/-- The length of the run of zeros with which the groups start. -/
def zerosAt (groups : List Nat) : Nat := (groups.takeWhile (· == 0)).length

/-- The place and the length of the longest run of zeros, the first of several. -/
def longestZeros (groups : List Nat) : Nat × Nat :=
  (List.range groups.length).foldl
    (fun best start =>
      let length := zerosAt (groups.drop start)
      if best.2 < length then (start, length) else best)
    (0, 0)

/-- The text of an address. The longest run of at least two zero groups is left out, and an
address of four bytes inside one of eight groups keeps its dots.
-/
def text : Address → String
  | v4 bytes => dotted bytes
  | v6 groups =>
      match groups with
      | [0, 0, 0, 0, 0, 0xFFFF, high, low] =>
          "::ffff:" ++ dotted [high / 256, high % 256, low / 256, low % 256]
      | _ =>
          let (start, length) := longestZeros groups
          if 1 < length then
            colons (groups.take start) ++ "::" ++ colons (groups.drop (start + length))
          else colons groups

end Address

end FleetOps.Http
