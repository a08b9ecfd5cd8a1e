import HostAgent.Decimal.Binary64

/-!
# `HostAgent.Decimal.Fixed` — binary64 values in the `%f`, `%e` and `%g` styles

The three decimal styles of C's `printf`, computed on the exact value of a binary64 pattern:

* `fixed` — the value rounded to `p` decimals: `ddd.ddd`, or no point when `p = 0`;
* `scientific` — one digit before the point and `p` after it, with the decimal exponent that
  the rounded value has (`9.99` rounded to one decimal is `1.0` with exponent `1`);
* `general` — the fixed style when the exponent `X` of the scientific one at `P` significant
  digits satisfies `-4 ≤ X < P`, the scientific one otherwise, trailing zeros of the fraction
  removed unless `alternate` asks to keep them.

Rounding is to the nearest digit string, a tie going to the even one, as the C library does in
the default rounding mode. A value is passed as a non-negative ratio `num / den` with `den > 0`.
-/

namespace HostAgent.Decimal

/-- The number of decimal digits of `n` (`1` for `0`). -/
def digitCount (n : Nat) : Nat := (Nat.repr n).length

/-- The decimal exponent `x` with `10 ^ x ≤ num / den < 10 ^ (x + 1)`, for `num, den > 0`. -/
def floorLog10 (num den : Nat) : Int :=
  let b : Int := (digitCount num : Int) - (digitCount den : Int)
  -- `num / den` lies in `[10 ^ (b - 1), 10 ^ (b + 1))`: `b` is exact or one too large
  let below : Bool :=
    if b ≥ 0 then num < den * Nat.pow 10 b.toNat else num * Nat.pow 10 (-b).toNat < den
  if below then b - 1 else b

/-- The decimal digits of `n`, with zeros in front up to `width` digits. -/
def paddedDigits (n width : Nat) : String :=
  let s := Nat.repr n
  String.ofList (List.replicate (width - s.length) '0') ++ s

/-- `num / den` rounded to `p` decimals, written `ddd.ddd` (no point for `p = 0`). -/
def fixed (num den p : Nat) : String :=
  let scaled := Binary64.roundHalfEven (num * Nat.pow 10 p) den
  let s := paddedDigits scaled (p + 1)
  if p == 0 then s
  else String.ofList (s.toList.take (s.length - p)) ++ "." ++ String.ofList (s.toList.drop (s.length - p))

/-- `num / den` rounded to `p + 1` significant digits: the digits written `d.ddd` and the
decimal exponent of the rounded value. Zero has exponent `0`. -/
def scientific (num den p : Nat) : String × Int :=
  let point (s : String) : String :=
    if p == 0 then s else String.ofList (s.toList.take 1) ++ "." ++ String.ofList (s.toList.drop 1)
  if num == 0 then (point (paddedDigits 0 (p + 1)), 0)
  else
    let x := floorLog10 num den
    let k := x - (p : Int)
    let q := if k ≥ 0 then Binary64.roundHalfEven num (den * Nat.pow 10 k.toNat)
      else Binary64.roundHalfEven (num * Nat.pow 10 (-k).toNat) den
    -- rounding up may reach `10 ^ (p + 1)`, one more digit: the exponent grows by one
    let (q, x) := if q ≥ Nat.pow 10 (p + 1) then (q / 10, x + 1) else (q, x)
    (point (Nat.repr q), x)

/-- An exponent as C writes it: `e`, a sign and at least two digits. -/
def exponentText (upper : Bool) (x : Int) : String :=
  (if upper then "E" else "e") ++ (if x < 0 then "-" else "+") ++ paddedDigits x.natAbs 2

/-- A fraction without its trailing zeros, and without its point when nothing is left. -/
def dropTrailingZeros (s : String) : String :=
  if s.toList.contains '.' then
    let cs := (s.toList.reverse.dropWhile (· == '0')).reverse
    String.ofList (if cs.getLast? == some '.' then cs.dropLast else cs)
  else s

/-- The `%e` style: digits and exponent. -/
def exponential (num den p : Nat) (upper : Bool) : String :=
  let (digits, x) := scientific num den p
  digits ++ exponentText upper x

/-- The `%g` style with `p` significant digits (`0` counts as `1`). -/
def general (num den p : Nat) (upper alternate : Bool) : String :=
  let p := if p == 0 then 1 else p
  let (digits, x) := scientific num den (p - 1)
  if x < (p : Int) && x ≥ -4 then
    let text := fixed num den (((p : Int) - 1 - x).toNat)
    if alternate then text else dropTrailingZeros text
  else
    let digits := if alternate then digits else dropTrailingZeros digits
    digits ++ exponentText upper x

end HostAgent.Decimal
