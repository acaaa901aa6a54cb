/-! Compressed data in the DEFLATE format: blocks of bytes as they are, or of symbols in
codes of varying length, each a byte, the end of the block, or a stretch to copy from what
has been written before.
-/

namespace FleetOps.Inflate

/-- The bits of a byte, the least first. -/
def bitsOf (b : UInt8) : List Bool := (List.range 8).map fun i => b.toNat.testBit i

/-- The bits of bytes. -/
def bits (bytes : List UInt8) : List Bool := bytes.flatMap bitsOf

/-- The number that `count` bits write with the least first, and the bits after them. -/
def number? : Nat → List Bool → Option (Nat × List Bool)
  | 0, input => some (0, input)
  | _ + 1, [] => none
  | count + 1, bit :: rest => do
      let (n, after) ← number? count rest
      some ((if bit then 1 else 0) + 2 * n, after)

/-- A code: where the bits lead, and the symbol at the end. -/
inductive Code where
  | empty
  | symbol (value : Nat)
  | branch (zero one : Code)

namespace Code

/-- Adds a symbol under some bits. -/
def insert (value : Nat) : List Bool → Code → Code
  | [], _ => symbol value
  | false :: rest, branch zero one => branch (insert value rest zero) one
  | true :: rest, branch zero one => branch zero (insert value rest one)
  | false :: rest, _ => branch (insert value rest empty) empty
  | true :: rest, _ => branch empty (insert value rest empty)

/-- The symbol at the head of the input, and the bits after it. -/
def read? : Code → List Bool → Option (Nat × List Bool)
  | symbol value, input => some (value, input)
  | branch zero _, false :: rest => read? zero rest
  | branch _ one, true :: rest => read? one rest
  | _, _ => none

/-- The bits of a number, the greatest first. -/
def bitsOf (length n : Nat) : List Bool :=
  (List.range length).reverse.map fun i => n.testBit i

/-- How many symbols have codes of a length. -/
def countOf (lengths : List Nat) (length : Nat) : Nat := lengths.countP (· == length)

/-- The first code of a length, as a number. -/
def firstOf (lengths : List Nat) : Nat → Nat
  | 0 => 0
  | length + 1 =>
      (firstOf lengths length + if length == 0 then 0 else countOf lengths length) * 2

/-- Gives codes to symbols in order: those of one length count up from the first. -/
def assign (lengths : List Nat) : List (Nat × Nat) → (Nat → Nat) → Code → Code
  | [], _, code => code
  | (value, length) :: rest, next, code =>
      if length == 0 then assign lengths rest next code
      else
        assign lengths rest (fun l => if l == length then next l + 1 else next l)
          (code.insert value (bitsOf length (next length)))

/-- The code with given lengths by symbol; zero is for symbols that do not occur. Unless
there is only one symbol, the lengths must use up all codes.
-/
def ofLengths? (lengths : List Nat) : Option Code :=
  let used := lengths.countP (· != 0)
  let weight := lengths.foldl (fun sum l => if l == 0 then sum else sum + Nat.pow 2 (15 - l)) 0
  if weight != 32768 && 1 < used then none
  else
    some (assign lengths ((List.range lengths.length).zip lengths) (firstOf lengths) .empty)

end Code

/-- The least length of a copy for each symbol from 257 on, and how many bits add to it. -/
def lengthTable : List (Nat × Nat) :=
  [
    (3, 0), (4, 0), (5, 0), (6, 0), (7, 0), (8, 0), (9, 0), (10, 0), (11, 1), (13, 1),
    (15, 1), (17, 1), (19, 2), (23, 2), (27, 2), (31, 2), (35, 3), (43, 3), (51, 3),
    (59, 3), (67, 4), (83, 4), (99, 4), (115, 4), (131, 5), (163, 5), (195, 5), (227, 5),
    (258, 0)
  ]

/-- The least distance of a copy for each symbol, and how many bits add to it. -/
def distanceTable : List (Nat × Nat) :=
  [
    (1, 0), (2, 0), (3, 0), (4, 0), (5, 1), (7, 1), (9, 2), (13, 2), (17, 3), (25, 3),
    (33, 4), (49, 4), (65, 5), (97, 5), (129, 6), (193, 6), (257, 7), (385, 7), (513, 8),
    (769, 8), (1025, 9), (1537, 9), (2049, 10), (3073, 10), (4097, 11), (6145, 11),
    (8193, 12), (12289, 12), (16385, 13), (24577, 13)
  ]

/-- The number that a symbol of a table stands for, and the bits after it. -/
def extended? (table : List (Nat × Nat)) (symbol : Nat) (input : List Bool)
    : Option (Nat × List Bool) := do
  let (least, count) ← table[symbol]?
  let (extra, rest) ← number? count input
  some (least + extra, rest)

/-- Copies `count` bytes from some distance back; the copy may read what it has written. -/
def copy (distance : Nat) : Nat → Array UInt8 → Array UInt8
  | 0, output => output
  | count + 1, output =>
      copy distance count (output.push (output[output.size - distance]?.getD 0))

/-- Reads the symbols of a block up to its end. -/
def symbols? (literals distances : Code)
    : Nat → List Bool → Array UInt8 → Option (Array UInt8 × List Bool)
  | 0, _, _ => none
  | fuel + 1, input, output => do
      let (symbol, rest) ← literals.read? input
      if symbol < 256 then symbols? literals distances fuel rest (output.push symbol.toUInt8)
      else if symbol == 256 then some (output, rest)
      else
        let (length, rest) ← extended? lengthTable (symbol - 257) rest
        let (place, rest) ← distances.read? rest
        let (distance, rest) ← extended? distanceTable place rest
        if distance ≤ output.size then
          symbols? literals distances fuel rest (copy distance length output)
        else none

/-- The lengths of the codes of a block whose codes are fixed. -/
def fixedLengths : List Nat :=
  List.replicate 144 8 ++ List.replicate 112 9 ++ List.replicate 24 7 ++ List.replicate 8 8

/-- The order in which the lengths of the codes for lengths stand. -/
def lengthOrder : List Nat :=
  [16, 17, 18, 0, 8, 7, 9, 6, 10, 5, 11, 4, 12, 3, 13, 2, 14, 1, 15]

/-- Reads `count` numbers of three bits. -/
def triples? : Nat → List Bool → Option (List Nat × List Bool)
  | 0, input => some ([], input)
  | count + 1, input => do
      let (n, rest) ← number? 3 input
      let (others, rest) ← triples? count rest
      some (n :: others, rest)

/-- Reads the lengths of codes until there are `count`; three symbols stand for runs. -/
def lengths? (code : Code) (count : Nat)
    : Nat → List Bool → List Nat → Option (List Nat × List Bool)
  | 0, _, _ => none
  | fuel + 1, input, lengths =>
      if lengths.length == count then some (lengths, input)
      else if count < lengths.length then none
      else do
        let (symbol, rest) ← code.read? input
        if symbol < 16 then lengths? code count fuel rest (lengths ++ [symbol])
        else if symbol == 16 then
          let last ← lengths.getLast?
          let (extra, rest) ← number? 2 rest
          lengths? code count fuel rest (lengths ++ List.replicate (3 + extra) last)
        else if symbol == 17 then
          let (extra, rest) ← number? 3 rest
          lengths? code count fuel rest (lengths ++ List.replicate (3 + extra) 0)
        else
          let (extra, rest) ← number? 7 rest
          lengths? code count fuel rest (lengths ++ List.replicate (11 + extra) 0)

/-- Reads the codes of a block, for literals and for distances. -/
def codes? (input : List Bool) : Option (Code × Code × List Bool) := do
  let (literalCount, rest) ← number? 5 input
  let (distanceCount, rest) ← number? 5 rest
  let (orderCount, rest) ← number? 4 rest
  let (given, rest) ← triples? (orderCount + 4) rest
  let pairs := lengthOrder.zip given
  let orderLengths := (List.range 19).map fun symbol =>
    ((pairs.find? (·.1 == symbol)).map (·.2)).getD 0
  let lengthCode ← Code.ofLengths? orderLengths
  let total := literalCount + 257 + distanceCount + 1
  let (lengths, rest) ← lengths? lengthCode total (total + 1) rest []
  let literals ← Code.ofLengths? (lengths.take (literalCount + 257))
  let distances ← Code.ofLengths? (lengths.drop (literalCount + 257))
  some (literals, distances, rest)

/-- Reads `count` whole bytes. -/
def bytes? : Nat → List Bool → Array UInt8 → Option (Array UInt8 × List Bool)
  | 0, input, output => some (output, input)
  | count + 1, input, output => do
      let (n, rest) ← number? 8 input
      bytes? count rest (output.push n.toUInt8)

/-- Reads a block that is not compressed, from the next whole byte on. -/
def stored? (input : List Bool) (output : Array UInt8) : Option (Array UInt8 × List Bool) := do
  let aligned := input.drop (input.length % 8)
  let (length, rest) ← number? 16 aligned
  let (check, rest) ← number? 16 rest
  if length + check == 65535 then bytes? length rest output else none

/-- Reads blocks up to the last one. -/
def blocks? : Nat → List Bool → Array UInt8 → Option (Array UInt8 × List Bool)
  | 0, _, _ => none
  | fuel + 1, input, output => do
      let (last, rest) ← number? 1 input
      let (kind, rest) ← number? 2 rest
      let (output, rest) ←
        match kind with
        | 0 => stored? rest output
        | 1 => do
            let literals ← Code.ofLengths? fixedLengths
            let distances ← Code.ofLengths? (List.replicate 32 5)
            symbols? literals distances (rest.length + 1) rest output
        | 2 => do
            let (literals, distances, rest) ← codes? rest
            symbols? literals distances (rest.length + 1) rest output
        | _ => none
      if last == 1 then some (output, rest) else blocks? fuel rest output

/-- The data of a compressed stream, and the bits after it. -/
def stream? (input : List Bool) : Option (Array UInt8 × List Bool) :=
  blocks? (input.length + 1) input #[]

/-- The data of compressed bytes; what follows the last block does not count. -/
def decode? (bytes : List UInt8) : Option (List UInt8) :=
  (stream? (bits bytes)).map fun (output, _) => output.toList

end FleetOps.Inflate
