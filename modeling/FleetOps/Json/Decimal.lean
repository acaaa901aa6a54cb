/-! Binary floating point numbers of 64 bits and their decimal text. A number is written
with the fewest digits that no other number is nearer to, and of those with the nearest.
-/

namespace FleetOps.Decimal

/-- A finite number as `significand * 2 ^ (exponent - 1074)`, apart from its sign. -/
structure Parts where
  significand : Nat
  exponent : Nat

/-- The bit above the 52 that a number of 64 bits stores of its significand. -/
def hiddenBit : Nat := 0x10000000000000

/-- The parts of a finite number, from its 64 bits. -/
def parts (bits : UInt64) : Parts :=
  let exponent := bits.toNat / hiddenBit % 2048
  let fraction := bits.toNat % hiddenBit
  if exponent == 0 then ⟨fraction, 0⟩ else ⟨hiddenBit + fraction, exponent - 1⟩

/-- Whether the sign bit is set. -/
def isNegative (bits : UInt64) : Bool := 0x8000000000000000 ≤ bits.toNat

/-- The numbers that read as one finite number, over a common denominator: `value` is the
number itself, the others bound the interval, whose ends belong to it if `closed` holds.
-/
structure Interval where
  low : Nat
  value : Nat
  high : Nat
  denominator : Nat
  closed : Bool

/-- The interval around a number that is not zero. The number below a power of two is half
as far away as the one above.
-/
def interval (p : Parts) : Interval :=
  let near := p.significand == hiddenBit && 0 < p.exponent
  {
    low := (4 * p.significand - if near then 1 else 2) * Nat.pow 2 p.exponent
    value := 4 * p.significand * Nat.pow 2 p.exponent
    high := (4 * p.significand + 2) * Nat.pow 2 p.exponent
    denominator := Nat.pow 2 1076
    closed := p.significand % 2 == 0
  }

/-- Digits and the power of ten of the first: `digits` has no more than seventeen digits,
and the number is `d.ddd * 10 ^ scale`.
-/
structure Shortest where
  digits : List Nat
  scale : Int

/-- The decimal digits of a number, the first one first. -/
def digitsOf (n : Nat) : List Nat := (Nat.toDigits 10 n).map fun c => c.toNat - '0'.toNat

/-- The number of decimal places to the left that hold the value: the least `k` in the range
with `value < 10 ^ k * denominator`.
-/
def placesFrom (i : Interval) : Nat → Int → Int
  | 0, k => k
  | fuel + 1, k =>
      let fits :=
        if 0 ≤ k then decide (i.value < Nat.pow 10 k.toNat * i.denominator)
        else decide (i.value * Nat.pow 10 (-k).toNat < i.denominator)
      if fits then k else placesFrom i fuel (k + 1)

/-- The scale of the first digit. -/
def firstScale (i : Interval) : Int := placesFrom i 700 (-330) - 1

/-- A candidate on a decimal grid lies in the interval: `n` steps of `unit` over the scaled
denominator.
-/
def inside (i : Interval) (unit scaling n : Nat) : Bool :=
  let point := n * unit * i.denominator
  let low := i.low * scaling
  let high := i.high * scaling
  if i.closed then low ≤ point && point ≤ high else low < point && point < high

/-- The neighbour of the value on a grid of `count` digits that lies in the interval; of two,
the nearer, and of two equally near the even one.
-/
def candidate? (i : Interval) (scale : Int) (count : Nat) : Option Nat :=
  let step := scale + 1 - count
  let unit := if 0 ≤ step then Nat.pow 10 step.toNat else 1
  let scaling := if 0 ≤ step then 1 else Nat.pow 10 (-step).toNat
  let below := i.value * scaling / (unit * i.denominator)
  let above := below + 1
  let distanceBelow := i.value * scaling - below * unit * i.denominator
  let distanceAbove := above * unit * i.denominator - i.value * scaling
  match inside i unit scaling below, inside i unit scaling above with
  | true, true =>
      if distanceBelow < distanceAbove then some below
      else if distanceAbove < distanceBelow then some above
      else if below % 2 == 0 then some below else some above
  | true, false => some below
  | false, true => some above
  | false, false => none

/-- The digits without zeros at the end. -/
def dropTrailingZeros (digits : List Nat) : List Nat :=
  (digits.reverse.dropWhile (· == 0)).reverse

/-- Tries grids of `count` and more digits until one has a point in the interval. -/
def shortestFrom (i : Interval) (scale : Int) : Nat → Nat → Shortest
  | 0, _ => ⟨[0], 0⟩
  | fuel + 1, count =>
      match candidate? i scale count with
      | none => shortestFrom i scale fuel (count + 1)
      | some n =>
          let digits := digitsOf n
          ⟨dropTrailingZeros digits, scale + digits.length - count⟩

/-- The shortest digits of a number that is not zero. Seventeen digits always suffice. -/
def shortest (p : Parts) : Shortest :=
  let i := interval p
  shortestFrom i (firstScale i) 17 1

/-- The character of a digit. -/
def digitChar (d : Nat) : Char := Char.ofNat ('0'.toNat + d)

/-- The digits of a number with a decimal point or an exponent. Scales from -5 to 15 are
written in full, and whole numbers among them end in `.0`.
-/
def layout (s : Shortest) : List Char :=
  let digits := s.digits.map digitChar
  if 0 ≤ s.scale && s.scale ≤ 15 then
    let whole := s.scale.toNat + 1
    if digits.length ≤ whole then
      digits ++ List.replicate (whole - digits.length) '0' ++ ['.', '0']
    else digits.take whole ++ ['.'] ++ digits.drop whole
  else if -5 ≤ s.scale && s.scale < 0 then
    ['0', '.'] ++ List.replicate ((-s.scale).toNat - 1) '0' ++ digits
  else
    let exponent :=
      (if s.scale < 0 then ['-'] else ['+']) ++ Nat.toDigits 10 s.scale.natAbs
    digits.take 1 ++ (if digits.length ≤ 1 then [] else '.' :: digits.drop 1)
      ++ ['e'] ++ exponent

/-- The text of a finite number. Zero keeps its sign. -/
def text (bits : UInt64) : List Char :=
  let p := parts bits
  (if isNegative bits then ['-'] else [])
    ++ if p.significand == 0 then ['0', '.', '0'] else layout (shortest p)

/-- A number read digit by digit: the digits that fit 64 bits, and the power of ten by which
they count.
-/
structure Scaled where
  significand : Nat
  exponent : Int

/-- Whether one more digit still fits. -/
def fits (n : Nat) (d : Nat) : Bool := n * 10 + d ≤ 0xFFFFFFFFFFFFFFFF

/-- Reads the digits before the point. From the first that does not fit on, each digit only
raises the power of ten.
-/
def readWhole : List Nat → Nat → Scaled
  | [], n => ⟨n, 0⟩
  | d :: rest, n =>
      if fits n d then readWhole rest (n * 10 + d) else ⟨n, (d :: rest).length⟩

/-- Reads the digits after the point up to the first that does not fit. -/
def readFraction : List Nat → Scaled → Scaled
  | [], s => s
  | d :: rest, s =>
      if fits s.significand d then
        readFraction rest ⟨s.significand * 10 + d, s.exponent - 1⟩
      else s

/-- The power of ten as a floating point number, rounded to the nearest. -/
def powerOfTen (n : Nat) : Float := Float.ofScientific 1 false n

/-- Applies a power of ten, in steps of at most 308. There is no result past the largest
number.
-/
def applyPower : Nat → Float → Int → Option Float
  | 0, f, _ => some f
  | fuel + 1, f, exponent =>
      if exponent.natAbs ≤ 308 then
        if 0 ≤ exponent then
          let scaled := f * powerOfTen exponent.natAbs
          if scaled.isInf then none else some scaled
        else some (f / powerOfTen exponent.natAbs)
      else if f == 0 then some f
      else if 0 ≤ exponent then none
      else applyPower fuel (f / powerOfTen 308) (exponent + 308)

/-- The largest exponent that is read as a number. -/
def exponentLimit : Nat := 0x7FFFFFFF

/-- The bits of the number that a significand and a power of ten give. -/
def toBits? (negative : Bool) (s : Scaled) : Option UInt64 :=
  (applyPower (s.exponent.natAbs / 308 + 2) s.significand.toUInt64.toFloat s.exponent).map
    fun f => (if negative then -f else f).toBits

/-- Reads digits, fraction digits and an exponent given by its sign and digits. An exponent
past the limit leaves zero, unless it would raise a number that is not zero.
-/
def read? (negative : Bool) (whole fraction : List Nat)
    (exponent : Option (Bool × List Nat))
    : Option UInt64 :=
  let s := readFraction fraction (readWhole whole 0)
  match exponent with
  | none => toBits? negative s
  | some (down, digits) =>
      let shift := digits.foldl (fun n d => n * 10 + d) 0
      if exponentLimit < shift then
        if s.significand != 0 && !down then none else toBits? negative ⟨0, 0⟩
      else
        let exponent := if down then s.exponent - shift else s.exponent + shift
        toBits? negative ⟨s.significand, exponent⟩

end FleetOps.Decimal
