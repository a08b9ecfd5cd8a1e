/-!
# `HostAgent.Decimal.Binary64` — binary64 values by their bits, in exact arithmetic

A binary64 number is kept as its 64-bit pattern and never computed with: reading a decimal
rounds the exact rational to the nearest pattern, and writing one searches decimal grids from
the coarsest down for the first point that reads back. Everything is `Nat` arithmetic, so the
two directions can be reasoned about without `Float`.

* `Binary64.ofDecimal` — the pattern nearest to `digits × 10 ^ exponent` (ties to an even
  mantissa), or `none` when the value is too large to be finite.
* `Binary64.shortest` — the fewest significant digits that read back as the pattern, and of
  those the nearest to its exact value.
-/

namespace HostAgent.Decimal

/-- A finite, non-negative binary64 value: `mantissa × 2 ^ exponent`. -/
structure Finite where
  mantissa : Nat
  exponent : Int
  deriving Repr, DecidableEq

/-- The bit pattern of a binary64 number. -/
structure Binary64 where
  bits : UInt64
  deriving Repr, DecidableEq

/-- The exact value of a finite magnitude as a ratio `num / den`. -/
def Finite.ratio (f : Finite) : Nat × Nat :=
  if f.exponent ≥ 0 then (f.mantissa * Nat.pow 2 f.exponent.toNat, 1)
  else (f.mantissa, Nat.pow 2 (-f.exponent).toNat)

namespace Binary64

/-- Width of the fraction field. -/
def fractionBits : Nat := 52

/-- Largest biased exponent of a finite value. -/
def maxBiased : Nat := 2046

/-- The sign bit. -/
def negative (x : Binary64) : Bool := (x.bits >>> 63) == 1

/-- The biased exponent field. -/
def biased (x : Binary64) : Nat := ((x.bits >>> 52) &&& 0x7FF).toNat

/-- The fraction field. -/
def fraction (x : Binary64) : Nat := (x.bits &&& 0xFFFFFFFFFFFFF).toNat

/-- Infinities and NaNs have every exponent bit set. -/
def isFinite (x : Binary64) : Bool := x.biased != 2047

/-- The exact value of a finite pattern, without its sign. -/
def magnitude (x : Binary64) : Finite :=
  if x.biased == 0 then ⟨x.fraction, -1074⟩
  else ⟨x.fraction + Nat.pow 2 fractionBits, (x.biased : Int) - 1075⟩

/-- Assemble a pattern from its three fields. -/
def assemble (negative : Bool) (biased fraction : Nat) : Binary64 :=
  ⟨((if negative then 1 else 0 : UInt64) <<< 63) ||| ((biased.toUInt64 &&& 0x7FF) <<< 52)
    ||| (fraction.toUInt64 &&& 0xFFFFFFFFFFFFF)⟩

/-- Positive or negative zero. -/
def zero (negative : Bool) : Binary64 := assemble negative 0 0

/-- Number of binary digits of `n` (`0` for `0`). -/
def bitLength (n : Nat) : Nat := if n = 0 then 0 else Nat.log2 n + 1

/-- `num / den` rounded to the nearest integer, a tie going to the even neighbour. -/
def roundHalfEven (num den : Nat) : Nat :=
  let q := num / den
  let r := num % den
  if 2 * r < den then q
  else if 2 * r > den then q + 1
  else if q % 2 == 0 then q else q + 1

/-- The power of two `b` with `2 ^ b ≤ num / den < 2 ^ (b + 1)`, for `num, den > 0`. -/
def floorLog2 (num den : Nat) : Int :=
  let b : Int := (bitLength num : Int) - (bitLength den : Int)
  -- `b` is exact or one too large
  let below : Bool :=
    if b ≥ 0 then num < den * Nat.pow 2 b.toNat else num * Nat.pow 2 (-b).toNat < den
  if below then b - 1 else b

/-- The pattern nearest to the positive rational `num / den`, or `none` when it rounds beyond
the largest finite value. -/
def ofRatio (negative : Bool) (num den : Nat) : Option Binary64 :=
  if num = 0 ∨ den = 0 then some (zero negative)
  else
    let b := floorLog2 num den
    if b < -1022 then
      -- subnormal range: a multiple of 2 ^ -1074
      let q := roundHalfEven (num * Nat.pow 2 1074) den
      if q ≥ Nat.pow 2 fractionBits then some (assemble negative 1 0)
      else some (assemble negative 0 q)
    else
      -- `q` has 53 bits before rounding; scale = 2 ^ (52 - b)
      let shift : Int := 52 - b
      let q := if shift ≥ 0 then roundHalfEven (num * Nat.pow 2 shift.toNat) den
        else roundHalfEven num (den * Nat.pow 2 (-shift).toNat)
      let (q, b) := if q ≥ Nat.pow 2 (fractionBits + 1) then (q / 2, b + 1) else (q, b)
      let biased := b + 1023
      if biased > (maxBiased : Int) then none
      else some (assemble negative biased.toNat (q - Nat.pow 2 fractionBits))

/-- The pattern nearest to `digits × 10 ^ exponent`, or `none` when that overflows. Decimal
exponents far outside the binary64 range are settled without computing their powers. -/
def ofDecimal (negative : Bool) (digits : Nat) (exponent : Int) : Option Binary64 :=
  if digits = 0 then some (zero negative)
  else
    let magnitude := exponent + ((Nat.repr digits).length : Int)
    if magnitude > 310 then none
    else if magnitude < -330 then some (zero negative)
    else if exponent ≥ 0 then ofRatio negative (digits * Nat.pow 10 exponent.toNat) 1
    else ofRatio negative digits (Nat.pow 10 (-exponent).toNat)

/-! ## Shortest digits -/

/-- A decimal `digits × 10 ^ exponent`. -/
structure Scientific where
  digits : Nat
  exponent : Int
  deriving Repr, DecidableEq

/-- A quantity `units × 2 ^ scale`, the form in which the rounding interval is kept. -/
structure Scaled where
  units : Nat
  scale : Int

/-- `j × 10 ^ k` against `q`, both sides moved to natural numbers: returns the pair
`(j × B, A)` where `B = 10 ^ max k 0 × 2 ^ max (-scale) 0` and `A` is `q` on the same footing. -/
def footing (q : Scaled) (k : Int) : Nat × Nat :=
  let a := q.units * Nat.pow 2 (max q.scale 0).toNat * Nat.pow 10 (max (-k) 0).toNat
  let b := Nat.pow 10 (max k 0).toNat * Nat.pow 2 (max (-q.scale) 0).toNat
  (a, b)

/-- The interval of reals that read back as a finite positive value `m × 2 ^ e`: its ends, and
whether they belong to it (they do when the mantissa is even). -/
structure Interval where
  low : Scaled
  value : Scaled
  high : Scaled
  closed : Bool

/-- The rounding interval of `m × 2 ^ e`, in units of `2 ^ (e - 2)`. The gap below is half as
wide at the bottom of a binade. -/
def interval (f : Finite) : Interval :=
  let s := f.exponent - 2
  let lowerNarrow := f.mantissa == Nat.pow 2 fractionBits && f.exponent > -1074
  { low := ⟨if lowerNarrow then 4 * f.mantissa - 1 else 4 * f.mantissa - 2, s⟩
    value := ⟨4 * f.mantissa, s⟩
    high := ⟨4 * f.mantissa + 2, s⟩
    closed := f.mantissa % 2 == 0 }

/-- The multiples `j × 10 ^ k` inside the interval, as the range of their `j`, nearest first:
the first component is the multiple nearest the value (ties to an even `j`). -/
def onGrid (iv : Interval) (k : Int) : Option Nat :=
  let (lowA, b) := footing iv.low k
  let (highA, _) := footing iv.high k
  let (valueA, _) := footing iv.value k
  let j0 := (lowA + b - 1) / b
  let jLow := if !iv.closed && j0 * b == lowA then j0 + 1 else j0
  let jHigh0 := highA / b
  let jHigh := if !iv.closed && jHigh0 * b == highA then jHigh0 - 1 else jHigh0
  if jLow ≤ jHigh ∧ 0 < jHigh then
    let near := roundHalfEven valueA b
    some (if near < jLow then jLow else if near > jHigh then jHigh else near)
  else none

/-- Search grids `10 ^ k`, `10 ^ (k - 1)`, … for the first that meets the interval. -/
def search (iv : Interval) : Nat → Int → Option Scientific
  | 0, _ => none
  | fuel + 1, k =>
    match onGrid iv k with
    | some j => some ⟨j, k⟩
    | none => search iv fuel (k - 1)

/-- Drop trailing zero digits into the exponent. -/
def normalize : Nat → Scientific → Scientific
  | 0, s => s
  | fuel + 1, s =>
    if s.digits ≠ 0 ∧ s.digits % 10 = 0 then normalize fuel ⟨s.digits / 10, s.exponent + 1⟩
    else s

/-- A grid exponent at least as coarse as the value's leading digit: `10 ^ k` exceeds the upper
end of the interval. -/
def startGrid (iv : Interval) : Int :=
  let bits : Int := (bitLength iv.high.units : Int) + iv.high.scale
  -- log10 2 < 0.30103, rounded up, plus one for safety
  (bits * 30103) / 100000 + 2

/-- The shortest decimal that reads back as the positive finite value `f`, nearest of those. -/
def shortestOf (f : Finite) : Scientific :=
  let iv := interval f
  match search iv 400 (startGrid iv) with
  | some s => normalize 30 s
  | none => ⟨f.mantissa, 0⟩

/-- The shortest decimal of a finite, non-zero pattern, without its sign. -/
def shortest (x : Binary64) : Scientific := shortestOf x.magnitude

end Binary64

end HostAgent.Decimal
