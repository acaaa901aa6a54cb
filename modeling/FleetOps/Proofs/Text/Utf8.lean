import Mathlib.Data.List.Basic
import FleetOps.Text.Utf8

/-! UTF-8 loses nothing: the bytes of a text are read back as the text, and no other bytes are.
-/

namespace FleetOps.Utf8

-----------------------------------------------------------------------------------------
-- How numbers are written
-----------------------------------------------------------------------------------------

/-- The byte goes on with a character. -/
def Follows (b : UInt8) : Prop := 0x80 ≤ b.toNat ∧ b.toNat ≤ 0xBF

/-- The bytes write a number as UTF-8 does: no shorter ones do, and the number is no surrogate and
not past the last code point.
-/
inductive Writes (n : Nat) : List UInt8 → Prop
  | single {b : UInt8} (first : b.toNat < 0x80) (number : n = b.toNat) : Writes n [b]
  | double {b x : UInt8} (first : 0xC2 ≤ b.toNat ∧ b.toNat < 0xE0) (second : Follows x)
    (number : n = (b.toNat - 0xC0) * 64 + (x.toNat - 0x80))
    : Writes n [b, x]
  | triple {b x y : UInt8} (first : 0xE0 ≤ b.toNat ∧ b.toNat < 0xF0) (second : Follows x)
    (overlong : b.toNat = 0xE0 → 0xA0 ≤ x.toNat) (surrogate : b.toNat = 0xED → x.toNat ≤ 0x9F)
    (third : Follows y)
    (number : n = ((b.toNat - 0xE0) * 64 + (x.toNat - 0x80)) * 64 + (y.toNat - 0x80))
    : Writes n [b, x, y]
  | quadruple {b x y z : UInt8} (first : 0xF0 ≤ b.toNat ∧ b.toNat < 0xF5) (second : Follows x)
    (overlong : b.toNat = 0xF0 → 0x90 ≤ x.toNat) (last : b.toNat = 0xF4 → x.toNat ≤ 0x8F)
    (third : Follows y) (fourth : Follows z)
    (number
      : n
        = (((b.toNat - 0xF0) * 64 + (x.toNat - 0x80)) * 64 + (y.toNat - 0x80)) * 64
          + (z.toNat - 0x80))
    : Writes n [b, x, y, z]

/-- The bytes that write a number. -/
def numberBytes (n : Nat) : List UInt8 :=
  if n ≤ 0x7F then [UInt8.ofNat n]
  else if n ≤ 0x7FF then [UInt8.ofNat (n / 64 % 0x20 + 0xC0), UInt8.ofNat (n % 0x40 + 0x80)]
  else if n ≤ 0xFFFF then
    [UInt8.ofNat (n / 4096 % 0x10 + 0xE0), UInt8.ofNat (n / 64 % 0x40 + 0x80),
      UInt8.ofNat (n % 0x40 + 0x80)]
  else
    [UInt8.ofNat (n / 262144 % 0x08 + 0xF0), UInt8.ofNat (n / 4096 % 0x40 + 0x80),
      UInt8.ofNat (n / 64 % 0x40 + 0x80), UInt8.ofNat (n % 0x40 + 0x80)]

/-- A character is written like its number. -/
theorem encodeChar_eq (c : Char) : encodeChar c = numberBytes c.toNat := rfl

/-- A small number is that of its byte. -/
theorem toNat_byte {n : Nat} (small : n < 256) : (UInt8.ofNat n).toNat = n :=
  UInt8.toNat_ofNat_of_lt' small

/-- A byte is that of its number. -/
theorem eq_byte {n : Nat} {b : UInt8} (same : b.toNat = n) : b = UInt8.ofNat n := by
  rw [← same, UInt8.ofNat_toNat]

/-- A byte after the first one is a small number above the mark of those. -/
theorem follows_byte {n : Nat} (small : n < 0x40) : Follows (UInt8.ofNat (n + 0x80)) := by
  rw [Follows, toNat_byte (by omega)]
  omega

/-- The bytes of a number that may be a character's write it, by cases on how many there are. -/
theorem writes_numberBytes {n : Nat} (valid : n.isValidChar) : Writes n (numberBytes n) := by
  have bound : n < 0xD800 ∨ 0xDFFF < n ∧ n < 0x110000 := valid
  have low (k : Nat) : k % 0x40 < 0x40 := Nat.mod_lt k (by decide)
  unfold numberBytes
  split
  · exact .single (by rw [toNat_byte (by omega)]; omega) (by rw [toNat_byte (by omega)])
  · split
    · refine .double ?_ (follows_byte (low n)) ?_
      · rw [toNat_byte (by omega)]
        omega
      · rw [toNat_byte (by omega), toNat_byte (by omega)]
        omega
    · split
      · refine .triple ?_ (follows_byte (low _)) ?_ ?_ (follows_byte (low n)) ?_
        all_goals
          repeat rw [toNat_byte (by omega)]
          omega
      · refine .quadruple ?_ (follows_byte (low _)) ?_ ?_ (follows_byte (low _)) (follows_byte (low n)) ?_
        all_goals
          repeat rw [toNat_byte (by omega)]
          omega

/-- What bytes write may be a character's number, and they are its only bytes, by cases on how many
there are.
-/
theorem Writes.unique {n : Nat} {bytes : List UInt8} (writes : Writes n bytes)
    : n.isValidChar ∧ bytes = numberBytes n := by
  cases writes with
  | single first number =>
      refine ⟨.inl (by omega), ?_⟩
      rw [numberBytes, if_pos (by omega), eq_byte number.symm]
  | double first second number =>
      obtain ⟨least, greatest⟩ := second
      refine ⟨.inl (by omega), ?_⟩
      rw [numberBytes, if_neg (by omega), if_pos (by omega)]
      simp only [List.cons.injEq, and_true]
      exact ⟨eq_byte (by omega), eq_byte (by omega)⟩
  | triple first second overlong surrogate third number =>
      obtain ⟨least, greatest⟩ := second
      obtain ⟨thirdLeast, thirdGreatest⟩ := third
      refine ⟨?_, ?_⟩
      · simp only [Nat.isValidChar]
        omega
      · rw [numberBytes, if_neg (by omega), if_neg (by omega), if_pos (by omega)]
        simp only [List.cons.injEq, and_true]
        exact ⟨eq_byte (by omega), eq_byte (by omega), eq_byte (by omega)⟩
  | quadruple first second overlong last third fourth number =>
      obtain ⟨least, greatest⟩ := second
      obtain ⟨thirdLeast, thirdGreatest⟩ := third
      obtain ⟨fourthLeast, fourthGreatest⟩ := fourth
      refine ⟨?_, ?_⟩
      · simp only [Nat.isValidChar]
        omega
      · rw [numberBytes, if_neg (by omega), if_neg (by omega), if_neg (by omega)]
        simp only [List.cons.injEq, and_true]
        exact ⟨eq_byte (by omega), eq_byte (by omega), eq_byte (by omega), eq_byte (by omega)⟩

-----------------------------------------------------------------------------------------
-- How bytes are read
-----------------------------------------------------------------------------------------

/-- The byte may be the next one. -/
def Pending.Admits (p : Pending) (b : UInt8) : Prop := p.least ≤ b ∧ b ≤ p.greatest

/-- A first byte needs more bytes after it, of which the second is within bounds. -/
def Opens (b : UInt8) (needed value : Nat) (bounds : UInt8 → Prop) : Prop :=
  ∃ p, lead b = .pending p ∧ p.needed = needed ∧ p.value = value ∧ ∀ x, p.Admits x ↔ bounds x

section

variable {b : UInt8}

/-- A first byte below the marks is a character. -/
theorem lead_single (first : b.toNat < 0x80) : lead b = .complete (Char.ofNat b.toNat) := by
  rw [lead, if_pos (UInt8.lt_iff_toNat_lt.mpr first)]

/-- A first byte with two high bits opens a character of two bytes. -/
theorem lead_double (first : 0xC2 ≤ b.toNat ∧ b.toNat < 0xE0)
    : Opens b 1 (b.toNat - 0xC0) Follows := by
  refine ⟨⟨1, 0x80, 0xBF, b.toNat - 0xC0⟩, ?_, rfl, rfl, fun x => ?_⟩
  · simp only [lead, UInt8.lt_iff_toNat_lt, UInt8.reduceToNat]
    rw [if_neg (by omega), if_neg (by omega), if_pos first.2]
  · simp only [Pending.Admits, Follows, UInt8.le_iff_toNat_le, UInt8.reduceToNat]

/-- A first byte with three high bits opens a character of three bytes, none of them overlong or
half a pair.
-/
theorem lead_triple (first : 0xE0 ≤ b.toNat ∧ b.toNat < 0xF0)
    : Opens b 2 (b.toNat - 0xE0) fun x =>
        Follows x ∧ (b.toNat = 0xE0 → 0xA0 ≤ x.toNat) ∧ (b.toNat = 0xED → x.toNat ≤ 0x9F) := by
  unfold Opens
  simp only [lead, UInt8.lt_iff_toNat_lt, UInt8.reduceToNat, beq_iff_eq, ← UInt8.toNat_inj]
  rw [if_neg (by omega), if_neg (by omega), if_neg (by omega)]
  split
  · refine ⟨_, rfl, rfl, by simp only; omega, fun x => ?_⟩
    simp only [Pending.Admits, Follows, UInt8.le_iff_toNat_le, UInt8.reduceToNat]
    omega
  · split
    · refine ⟨_, rfl, rfl, by simp only; omega, fun x => ?_⟩
      simp only [Pending.Admits, Follows, UInt8.le_iff_toNat_le, UInt8.reduceToNat]
      omega
    · rw [if_pos first.2]
      refine ⟨_, rfl, rfl, rfl, fun x => ?_⟩
      simp only [Pending.Admits, Follows, UInt8.le_iff_toNat_le, UInt8.reduceToNat]
      omega

/-- A first byte with four high bits opens a character of four bytes, none of them overlong or
beyond the last.
-/
theorem lead_quadruple (first : 0xF0 ≤ b.toNat ∧ b.toNat < 0xF5)
    : Opens b 3 (b.toNat - 0xF0) fun x =>
        Follows x ∧ (b.toNat = 0xF0 → 0x90 ≤ x.toNat) ∧ (b.toNat = 0xF4 → x.toNat ≤ 0x8F) := by
  unfold Opens
  simp only [lead, UInt8.lt_iff_toNat_lt, UInt8.reduceToNat, beq_iff_eq, ← UInt8.toNat_inj]
  rw [if_neg (by omega), if_neg (by omega), if_neg (by omega), if_neg (by omega),
    if_neg (by omega), if_neg (by omega)]
  split
  · refine ⟨_, rfl, rfl, by simp only; omega, fun x => ?_⟩
    simp only [Pending.Admits, Follows, UInt8.le_iff_toNat_le, UInt8.reduceToNat]
    omega
  · split
    · refine ⟨_, rfl, rfl, rfl, fun x => ?_⟩
      simp only [Pending.Admits, Follows, UInt8.le_iff_toNat_le, UInt8.reduceToNat]
      omega
    · rw [if_pos (by omega)]
      refine ⟨_, rfl, rfl, by simp only; omega, fun x => ?_⟩
      simp only [Pending.Admits, Follows, UInt8.le_iff_toNat_le, UInt8.reduceToNat]
      omega

/-- Any other first byte is stray. -/
theorem lead_stray (outside : 0x80 ≤ b.toNat ∧ b.toNat < 0xC2 ∨ 0xF5 ≤ b.toNat)
    : lead b = .stray := by
  simp only [lead, UInt8.lt_iff_toNat_lt, UInt8.reduceToNat, beq_iff_eq, ← UInt8.toNat_inj]
  repeat' split
  all_goals first
    | rfl
    | omega

end

/-- The number that the bytes of a character go on to write. -/
def extended (value : Nat) (tail : List UInt8) : Nat :=
  tail.foldl (fun value b => value * 64 + (b.toNat - 0x80)) value

/-- One byte extends a number by its six bits. -/
theorem extended_singleton (p : Pending) (b : UInt8) : extended p.value [b] = p.extend b := by
  unfold extended Pending.extend
  simp only [List.foldl_cons, List.foldl_nil]

/-- Bytes extend a number one after another. -/
theorem extended_cons (p : Pending) (b : UInt8) (tail : List UInt8)
    : extended p.value (b :: tail) = extended (p.extend b) tail := by
  unfold extended Pending.extend
  simp only [List.foldl_cons]

/-- The bytes complete a character. -/
def Pending.Takes (p : Pending) : List UInt8 → Prop
  | [] => False
  | b :: rest => p.Admits b ∧ rest.length + 1 = p.needed ∧ ∀ later ∈ rest, Follows later

/-- What is awaited after one more byte of a character. -/
def Pending.next (p : Pending) (b : UInt8) : Pending := ⟨p.needed - 1, 0x80, 0xBF, p.extend b⟩

/-- After the second byte all that follow are held to go on with the character. -/
theorem Pending.next_admits (p : Pending) (b x : UInt8) : (p.next b).Admits x ↔ Follows x := by
  simp only [next, Admits, Follows, UInt8.le_iff_toNat_le, UInt8.reduceToNat]

/-- Reading a byte where a character has begun. -/
theorem read_pending (p : Pending) (b : UInt8) (rest : List UInt8)
    : p.Admits b
        ∧ read (some p) (b :: rest)
          = (if p.needed ≤ 1 then some (Char.ofNat (p.extend b)) :: read none rest
            else read (some (p.next b)) rest)
      ∨ ¬ p.Admits b ∧ ∃ others, read (some p) (b :: rest) = none :: others := by
  by_cases admits : p.Admits b
  · refine .inl ⟨admits, ?_⟩
    simp only [read, admits.1, admits.2, decide_true, Bool.and_true, if_true, Pending.next]
  · refine .inr ⟨admits, ?_⟩
    have outside : (decide (p.least ≤ b) && decide (b ≤ p.greatest)) = false := by
      simpa [Pending.Admits] using admits
    simp only [read, outside, Bool.false_eq_true, if_false]
    cases lead b <;> exact ⟨_, rfl⟩

/-- The bytes that complete a character are read as the character, by induction over them. -/
theorem read_of_takes {p : Pending} {tail : List UInt8} (takes : p.Takes tail)
    (rest : List UInt8)
    : read (some p) (tail ++ rest)
      = some (Char.ofNat (extended p.value tail)) :: read none rest := by
  induction tail generalizing p with
  | nil => exact takes.elim
  | cons b tail ih =>
      obtain ⟨admits, length, later⟩ := takes
      -- The first byte has bounds of its own; those after it only have to go on with a character.
      obtain ⟨_, reads⟩ | ⟨other, _⟩ := read_pending p b (tail ++ rest)
      · refine reads.trans ?_
        cases tail with
        | nil =>
            have last : p.needed ≤ 1 := Nat.le_of_eq length.symm
            rw [extended_singleton]
            exact if_pos last
        | cons x tail =>
            have length : tail.length + 1 + 1 = p.needed := length
            have more : ¬ p.needed ≤ 1 := by omega
            have awaited : tail.length + 1 = p.needed - 1 := by omega
            have admitted := (p.next_admits b x).mpr (later x (.head tail))
            rw [extended_cons]
            refine (if_neg more).trans (ih ⟨admitted, awaited, ?_⟩)
            exact fun b among => later b (.tail x among)
      · exact absurd admits other

/-- Nothing else completes a character, by induction over the bytes. -/
theorem takes_of_read {p : Pending} {bytes : List UInt8} {cs : List Char} (needed : p.needed ≠ 0)
    (reads : read (some p) bytes = cs.map some)
    : ∃ tail rest others,
        bytes = tail ++ rest
        ∧ p.Takes tail
        ∧ cs = Char.ofNat (extended p.value tail) :: others
        ∧ read none rest = others.map some := by
  induction bytes generalizing p with
  | nil => cases cs <;> simp [read] at reads
  | cons b bytes ih =>
      obtain ⟨admits, same⟩ | ⟨_, others, same⟩ := read_pending p b bytes
      · rw [same] at reads
        split at reads
        next last =>
          obtain _ | ⟨c, others⟩ := cs
          · cases reads
          · obtain ⟨read, rest⟩ := List.cons.inj reads
            have length : 0 + 1 = p.needed := by omega
            refine ⟨[b], bytes, others, rfl, ⟨admits, length, nofun⟩, ?_, rest⟩
            rw [← Option.some.inj read, extended_singleton]
        next more =>
          have awaited : p.needed - 1 ≠ 0 := by omega
          obtain ⟨tail, rest, others, rfl, takes, rfl, following⟩ := ih awaited reads
          obtain _ | ⟨x, tail⟩ := tail
          · exact takes.elim
          · obtain ⟨admitted, length, later⟩ := takes
            have length : tail.length + 1 = p.needed - 1 := length
            have length : tail.length + 1 + 1 = p.needed := by omega
            refine ⟨b :: x :: tail, rest, others, rfl, ⟨admits, length, ?_⟩, ?_, following⟩
            · rintro other (_ | ⟨_, among⟩)
              · exact (p.next_admits b x).mp admitted
              · exact later other among
            · rw [extended_cons p]
              rfl
      · rw [same] at reads
        cases cs <;> cases reads

section

variable {b x : UInt8} {needed value : Nat} {bounds : UInt8 → Prop} {tail rest bytes : List UInt8}
  {cs : List Char}

/-- A character that is opened is read with the bytes that follow it, and the rest after it. -/
theorem Opens.read_append (opens : Opens b needed value bounds) (second : bounds x)
    (length : tail.length + 1 = needed) (later : ∀ y ∈ tail, Follows y)
    : read none (b :: x :: tail ++ rest)
      = some (Char.ofNat (extended value (x :: tail))) :: read none rest := by
  obtain ⟨p, leads, rfl, rfl, admits⟩ := opens
  have takes : p.Takes (x :: tail) := ⟨(admits x).mpr second, length, later⟩
  rw [List.cons_append, read, leads]
  exact read_of_takes takes rest

/-- What is read from an opened character is the character and the rest after it. -/
theorem Opens.of_read (opens : Opens b needed value bounds) (more : needed ≠ 0)
    (reads : read none (b :: bytes) = cs.map some)
    : ∃ x tail rest others,
        bytes = x :: tail ++ rest
        ∧ bounds x
        ∧ tail.length + 1 = needed
        ∧ (∀ y ∈ tail, Follows y)
        ∧ cs = Char.ofNat (extended value (x :: tail)) :: others
        ∧ read none rest = others.map some := by
  obtain ⟨p, leads, rfl, rfl, admits⟩ := opens
  rw [read, leads] at reads
  obtain ⟨tail, rest, others, rfl, takes, rfl, following⟩ := takes_of_read more reads
  obtain _ | ⟨x, tail⟩ := tail
  · exact takes.elim
  · obtain ⟨second, length, later⟩ := takes
    exact ⟨x, tail, rest, others, rfl, (admits x).mp second, length, later, rfl, following⟩

end

-----------------------------------------------------------------------------------------
-- Characters and texts
-----------------------------------------------------------------------------------------

/-- What writes a number is read as its character, by cases on how many bytes there are. -/
theorem read_of_writes {n : Nat} {bytes : List UInt8} (writes : Writes n bytes)
    (rest : List UInt8)
    : read none (bytes ++ rest) = some (Char.ofNat n) :: read none rest := by
  cases writes with
  | single first number => rw [List.singleton_append, read, lead_single first, number]
  | double first second number =>
      rw [number]
      exact (lead_double first).read_append second rfl nofun
  | triple first second overlong surrogate third number =>
      rw [number]
      exact (lead_triple first).read_append ⟨second, overlong, surrogate⟩ rfl (by simpa using third)
  | quadruple first second overlong last third fourth number =>
      rw [number]
      exact (lead_quadruple first).read_append ⟨second, overlong, last⟩ rfl
        (by simpa using ⟨third, fourth⟩)

/-- Whatever is read as a character writes its number, by cases on the first byte. -/
theorem writes_of_read {b : UInt8} {bytes : List UInt8} {cs : List Char}
    (reads : read none (b :: bytes) = cs.map some)
    : ∃ n head rest others,
        b :: bytes = head ++ rest
        ∧ Writes n head
        ∧ cs = Char.ofNat n :: others
        ∧ read none rest = others.map some := by
  by_cases single : b.toNat < 0x80
  · rw [read, lead_single single] at reads
    obtain _ | ⟨c, others⟩ := cs
    · cases reads
    · obtain ⟨first, rest⟩ := List.cons.inj reads
      refine ⟨_, [b], bytes, others, rfl, .single single rfl, ?_, rest⟩
      rw [← Option.some.inj first]
  by_cases stray : b.toNat < 0xC2 ∨ 0xF5 ≤ b.toNat
  · rw [read, lead_stray (by omega)] at reads
    cases cs <;> cases reads
  by_cases double : b.toNat < 0xE0
  · have first : 0xC2 ≤ b.toNat ∧ b.toNat < 0xE0 := by omega
    obtain ⟨x, tail, rest, others, rfl, second, length, -, rfl, following⟩ :=
      (lead_double first).of_read (by decide) reads
    obtain rfl := List.length_eq_zero_iff.mp (Nat.succ.inj length)
    exact ⟨_, [b, x], rest, others, rfl, .double first second rfl, rfl, following⟩
  by_cases triple : b.toNat < 0xF0
  · have first : 0xE0 ≤ b.toNat ∧ b.toNat < 0xF0 := by omega
    obtain ⟨x, tail, rest, others, rfl, ⟨second, overlong, surrogate⟩, length, later, rfl,
      following⟩ := (lead_triple first).of_read (by decide) reads
    obtain ⟨y, rfl⟩ := List.length_eq_one_iff.mp (Nat.succ.inj length)
    have third := later y (by simp)
    exact ⟨_, [b, x, y], rest, others, rfl, .triple first second overlong surrogate third rfl, rfl,
      following⟩
  · have first : 0xF0 ≤ b.toNat ∧ b.toNat < 0xF5 := by omega
    obtain ⟨x, tail, rest, others, rfl, ⟨second, overlong, last⟩, length, later, rfl,
      following⟩ := (lead_quadruple first).of_read (by decide) reads
    obtain ⟨y, z, rfl⟩ := List.length_eq_two.mp (Nat.succ.inj length)
    have third := later y (by simp)
    have fourth := later z (by simp)
    exact ⟨_, [b, x, y, z], rest, others, rfl, .quadruple first second overlong last third fourth rfl,
      rfl, following⟩

/-- A character is written as its bytes. -/
theorem writes_encodeChar (c : Char) : Writes c.toNat (encodeChar c) :=
  writes_numberBytes c.valid

/-- A number that is written is that of the character with these bytes. -/
theorem Writes.eq_encodeChar {n : Nat} {bytes : List UInt8} (writes : Writes n bytes)
    : bytes = encodeChar (Char.ofNat n) := by
  obtain ⟨valid, same⟩ := writes.unique
  have number : (Char.ofNat n).toNat = n := by
    rw [show Char.ofNat n = Char.ofNatAux n valid from dif_pos valid]
    rfl
  rw [encodeChar_eq, number, same]

/-- Well-formed bytes are those that the characters are written with, by induction over these. -/
theorem read_eq_map_some_iff {bytes : List UInt8} {cs : List Char}
    : read none bytes = cs.map some ↔ bytes = cs.flatMap encodeChar := by
  constructor
  · intro reads
    induction cs generalizing bytes with
    | nil =>
        obtain _ | ⟨b, bytes⟩ := bytes
        · rfl
        · obtain ⟨_, _, _, _, _, _, read, _⟩ := writes_of_read reads
          cases read
    | cons c cs ih =>
        obtain _ | ⟨b, bytes⟩ := bytes
        · cases reads
        · obtain ⟨n, head, rest, others, split, writes, read, following⟩ := writes_of_read reads
          obtain ⟨rfl, rfl⟩ := List.cons.inj read
          rw [split, List.flatMap_cons, ← writes.eq_encodeChar, ← ih following]
  · rintro rfl
    induction cs with
    | nil => rfl
    | cons c cs ih =>
        rw [List.flatMap_cons, read_of_writes (writes_encodeChar c), ih, Char.ofNat_toNat]
        rfl

/-- A list has no gap exactly if it is all there. -/
theorem mapM_id_eq_some {α : Type} {items : List (Option α)} {values : List α}
    : items.mapM id = some values ↔ items = values.map some := by
  induction items generalizing values with
  | nil => cases values <;> simp
  | cons item items ih =>
      rw [List.mapM_cons]
      cases item <;> cases values <;> simp [Option.bind_eq_some_iff, ih, and_comm]

/-- Bytes are read as a text exactly if they are the bytes of the text. -/
theorem decode?_eq_some_iff {bytes : List UInt8} {s : String}
    : decode? bytes = some s ↔ bytes = encode s := by
  have read (cs : List Char) : chars? bytes = some cs ↔ bytes = cs.flatMap encodeChar :=
    mapM_id_eq_some.trans read_eq_map_some_iff
  simp only [decode?, Option.map_eq_some_iff, read, encode]
  constructor
  · rintro ⟨cs, rfl, rfl⟩
    rw [String.toList_ofList]
  · rintro rfl
    exact ⟨s.toList, rfl, String.ofList_toList⟩

/-- What was written is read as it was. -/
@[simp] theorem decode?_encode (s : String) : decode? (encode s) = some s :=
  decode?_eq_some_iff.mpr rfl

/-- Nothing of the bytes of a text is replaced. -/
theorem decodeLossy_encode (s : String) : decodeLossy (encode s) = s := by
  have read : symbols (encode s) = s.toList.map some := read_eq_map_some_iff.mpr rfl
  rw [decodeLossy, read, List.map_map]
  exact (congrArg String.ofList (List.map_id' s.toList)).trans String.ofList_toList

end FleetOps.Utf8
