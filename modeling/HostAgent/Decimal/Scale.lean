import HostAgent.Decimal.Binary64

/-!
# `HostAgent.Decimal.Scale` — binary64 arithmetic by rounded steps

Each operation here is one binary64 operation: the exact result of its operands, rounded to the
nearest pattern (ties to an even mantissa). Operands and results are non-negative and finite;
`none` stands for a result too large to be finite.

`scaleByTen` reads `significand × 10 ^ exponent` the quick way: the significand is rounded to
binary64 first, then multiplied or divided by the binary64 value nearest `10 ^ |exponent|`. An
exponent beyond `±308` is brought back by dividing by `1e308` first (a zero stays zero, a large
exponent is refused). Two roundings instead of one, so the result may be one unit away from the
nearest pattern: `2.2250738585072011e-308` reads as `2.2250738585072014e-308`.
-/

namespace HostAgent.Decimal

namespace Binary64

/-- The pattern nearest to a natural number, when it is finite. -/
def ofNat (n : Nat) : Option Binary64 := ofRatio false n 1

/-- The rounded product of two non-negative finite patterns. -/
def mul (x y : Binary64) : Option Binary64 :=
  let (a, b) := x.magnitude.ratio
  let (c, d) := y.magnitude.ratio
  ofRatio false (a * c) (b * d)

/-- The rounded quotient of two non-negative finite patterns, the divisor not zero. -/
def div (x y : Binary64) : Option Binary64 :=
  let (a, b) := x.magnitude.ratio
  let (c, d) := y.magnitude.ratio
  ofRatio false (a * d) (b * c)

/-- Whether a pattern is a zero of either sign. -/
def isZero (x : Binary64) : Bool := x.biased == 0 && x.fraction == 0

/-- The pattern nearest to `10 ^ i`, for `i ≤ 308`. -/
def powerOfTen (i : Nat) : Binary64 := (ofRatio false (Nat.pow 10 i) 1).getD (zero false)

/-- The largest power of ten a single step uses. -/
def maxStep : Nat := 308

/-- `f × 10 ^ exponent` by steps: one multiplication or division by `powerOfTen`, after as many
divisions by `1e308` as bring the exponent into range. `none` when a multiplication overflows
or a positive exponent is out of range for a non-zero value. -/
def scaleSteps : Nat → Binary64 → Int → Option Binary64
  | 0, f, _ => some f
  | fuel + 1, f, exponent =>
    if exponent.natAbs ≤ maxStep then
      if exponent ≥ 0 then mul f (powerOfTen exponent.toNat)
      else div f (powerOfTen exponent.natAbs)
    else if f.isZero then some f
    else if exponent ≥ 0 then none
    else match div f (powerOfTen maxStep) with
      | some g => scaleSteps fuel g (exponent + maxStep)
      | none => none

/-- `significand × 10 ^ exponent` read the quick way (see the module note), with its sign. -/
def scaleByTen (negative : Bool) (significand : Nat) (exponent : Int) : Option Binary64 := do
  let f ← ofNat significand
  let g ← scaleSteps (exponent.natAbs / maxStep + 1) f exponent
  pure (if negative then assemble true g.biased g.fraction else g)

end Binary64

end HostAgent.Decimal
