import FleetOps.Octets

/-! The digest SHA-512. Its constants are the leading bits of the fractional parts of roots
of the first primes.
-/

namespace FleetOps.Sha512

/-- The first `count` primes from `n` on. -/
def primesFrom : Nat → Nat → Nat → List Nat
  | 0, _, _ => []
  | _ + 1, 0, _ => []
  | fuel + 1, count + 1, n =>
      if (List.range n).all fun d => d < 2 || n % d != 0 then
        n :: primesFrom fuel count (n + 1)
      else primesFrom fuel (count + 1) (n + 1)

/-- The first eighty primes. -/
def primes : List Nat := primesFrom 500 80 2

/-- The greatest number below `2 ^ bits` beyond `root` whose power is at most `n`. -/
def rootBits (power n : Nat) : Nat → Nat → Nat
  | 0, root => root
  | bits + 1, root =>
      if Nat.pow (root + Nat.pow 2 bits) power ≤ n then
        rootBits power n bits (root + Nat.pow 2 bits)
      else rootBits power n bits root

/-- The first 64 bits of the fractional part of a root of `n`. -/
def fraction (power n : Nat) : UInt64 :=
  (rootBits power (n * Nat.pow 2 (64 * power)) 72 0).toUInt64

/-- The constants of the rounds. -/
def roundConstants : List UInt64 := primes.map (fraction 3)

/-- The state before the first block. -/
def initial : List UInt64 := (primes.take 8).map (fraction 2)

/-- Rotates a word to the right. -/
def rotate (x : UInt64) (n : UInt64) : UInt64 := (x >>> n) ||| (x <<< (64 - n))

/-- Mixes a word of the message that lies far back. -/
def mixFar (x : UInt64) : UInt64 := rotate x 1 ^^^ rotate x 8 ^^^ (x >>> 7)

/-- Mixes a word of the message that lies close. -/
def mixNear (x : UInt64) : UInt64 := rotate x 19 ^^^ rotate x 61 ^^^ (x >>> 6)

/-- Extends the words of a block, which stand in reverse order, by `count` more. -/
def extend : Nat → List UInt64 → List UInt64
  | 0, words => words
  | count + 1, words =>
      let word (i : Nat) : UInt64 := words.getD i 0
      extend count ((mixNear (word 1) + word 6 + mixFar (word 14) + word 15) :: words)

/-- The eight words of the state. -/
structure State where
  a : UInt64
  b : UInt64
  c : UInt64
  d : UInt64
  e : UInt64
  f : UInt64
  g : UInt64
  h : UInt64

/-- The state with given words. -/
def State.ofList (words : List UInt64) : State :=
  let word (i : Nat) : UInt64 := words.getD i 0
  ⟨word 0, word 1, word 2, word 3, word 4, word 5, word 6, word 7⟩

/-- The words of a state. -/
def State.toList (s : State) : List UInt64 := [s.a, s.b, s.c, s.d, s.e, s.f, s.g, s.h]

/-- One round, with a constant and a word of the message. -/
def State.round (s : State) (constant word : UInt64) : State :=
  let sumE := rotate s.e 14 ^^^ rotate s.e 18 ^^^ rotate s.e 41
  let choice := (s.e &&& s.f) ^^^ ((~~~s.e) &&& s.g)
  let first := s.h + sumE + choice + constant + word
  let sumA := rotate s.a 28 ^^^ rotate s.a 34 ^^^ rotate s.a 39
  let majority := (s.a &&& s.b) ^^^ (s.a &&& s.c) ^^^ (s.b &&& s.c)
  ⟨first + (sumA + majority), s.a, s.b, s.c, s.d + first, s.e, s.f, s.g⟩

/-- The words of a block of bytes. -/
def wordsOf : Nat → List UInt8 → List UInt64
  | 0, _ => []
  | count + 1, bytes =>
      (Octets.toNat (bytes.take 8)).toUInt64 :: wordsOf count (bytes.drop 8)

/-- Takes one block into the state. -/
def compress (state : List UInt64) (block : List UInt8) : List UInt64 :=
  let words := (extend 64 (wordsOf 16 block).reverse).reverse
  let final := (roundConstants.zip words).foldl
    (fun s pair => s.round pair.1 pair.2) (State.ofList state)
  List.zipWith (· + ·) state final.toList

/-- Takes `count` blocks of 128 bytes into the state. -/
def absorb : Nat → List UInt64 → List UInt8 → List UInt64
  | 0, state, _ => state
  | count + 1, state, bytes => absorb count (compress state (bytes.take 128)) (bytes.drop 128)

/-- The message with its end mark, zeros, and its length in bits. -/
def padded (message : List UInt8) : List UInt8 :=
  let zeros := (239 - message.length % 128) % 128
  message ++ [0x80] ++ List.replicate zeros 0 ++ Octets.ofNat 16 (message.length * 8)

/-- The 64 bytes of the digest. -/
def digest (message : List UInt8) : List UInt8 :=
  let bytes := padded message
  (absorb (bytes.length / 128) initial bytes).flatMap fun word => Octets.ofNat 8 word.toNat

end FleetOps.Sha512
