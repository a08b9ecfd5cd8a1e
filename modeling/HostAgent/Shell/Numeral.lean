import HostAgent.Decimal.Binary64

/-!
# `HostAgent.Shell.Numeral` — numbers in `printf` arguments

`printf` reads the argument of a numeric conversion the way the C library reads a number from
the front of a text, and looks at how far the reading got:

* `readInteger` reads like `strtoimax` (or, unsigned, `strtoumax`) with base `0`: blanks, a
  sign, then `0x` and hexadecimal digits, `0` and octal digits, or decimal digits. A value beyond
  64 bits is kept at the limit and marked out of range; unsigned, a negative value wraps around.
* `readFloat` reads like `strtod`: blanks, a sign, then `inf`, `infinity` or `nan` in any case,
  a hexadecimal significand with a binary exponent `p`, or decimal digits with a point and a
  decimal exponent `e`. The value is the nearest binary64 value; one too large is infinite and
  out of range, and so is a value that underflows: below the smallest normal value even when
  rounded to 53 bits without an exponent limit, and not exactly representable.

Both give how many characters were read: none when no number starts the text, fewer than all
when it was not completely converted.
-/

namespace HostAgent.Shell

open HostAgent.Decimal

/-- What reading a number from the front of a text gave. -/
structure Numeral (α : Type) where
  value : α
  /-- How many characters were read; `0` when no number starts the text. -/
  used : Nat
  /-- The number was beyond the range of the type and was kept at its limit. -/
  outOfRange : Bool := false

namespace Numeral

/-- The white space the C library skips before a number. -/
def isSpace (c : Char) : Bool :=
  c == ' ' || c == '\t' || c == '\n' || c == '\r' || c.toNat == 11 || c.toNat == 12

/-- The value of a digit in a base, if it is one. -/
def digitIn (base : Nat) (c : Char) : Option Nat :=
  let v := if c.isDigit then some (c.toNat - 48)
    else if 'a' ≤ c && c ≤ 'z' then some (c.toNat - 87)
    else if 'A' ≤ c && c ≤ 'Z' then some (c.toNat - 55)
    else none
  match v with
  | some d => if d < base then some d else none
  | none => none

/-- The value of the digits of a base at the front of a text, and how many there are. -/
def digitRun (base : Nat) (cs : List Char) : Nat × Nat :=
  let ds := cs.takeWhile fun c => (digitIn base c).isSome
  (ds.foldl (fun v c => base * v + (digitIn base c).getD 0) 0, ds.length)

/-- Leading blanks and a sign: how many characters they take and whether the sign is minus. -/
def signPart (cs : List Char) : Nat × Bool :=
  let blanks := (cs.takeWhile isSpace).length
  match cs.drop blanks with
  | '-' :: _ => (blanks + 1, true)
  | '+' :: _ => (blanks + 1, false)
  | _ => (blanks, false)

/-- The unsigned magnitude after the sign, in base `0`: its value and how many characters it
takes (`0` when there is no digit). -/
def magnitude (cs : List Char) : Nat × Nat :=
  match cs with
  | '0' :: x :: h :: _ =>
    if (x == 'x' || x == 'X') && (digitIn 16 h).isSome then
      let (v, n) := digitRun 16 (cs.drop 2)
      (v, n + 2)
    else digitRun 8 cs
  | '0' :: _ => digitRun 8 cs
  | _ => digitRun 10 cs

/-- The largest value of an unsigned 64-bit integer. -/
def maxUnsigned : Nat := 18446744073709551615

/-- The largest value of a signed 64-bit integer. -/
def maxSigned : Nat := 9223372036854775807

/-- Read an integer from the front of a text, signed (`strtoimax`) or unsigned (`strtoumax`). -/
def readInteger (signed : Bool) (s : String) : Numeral Int :=
  let cs := s.toList
  let (lead, negative) := signPart cs
  let (v, n) := magnitude (cs.drop lead)
  if n == 0 then { value := 0, used := 0 }
  else
    let used := lead + n
    if signed then
      if negative then
        if v > maxSigned + 1 then { value := -((maxSigned : Int) + 1), used, outOfRange := true }
        else { value := -(v : Int), used }
      else if v > maxSigned then { value := maxSigned, used, outOfRange := true }
      else { value := v, used }
    else if v > maxUnsigned then { value := maxUnsigned, used, outOfRange := true }
    else if negative && v != 0 then { value := ((maxUnsigned + 1 - v : Nat) : Int), used }
    else { value := v, used }

/-- The infinity of a sign. -/
def infinity (negative : Bool) : Binary64 := Binary64.assemble negative 2047 0

/-- A quiet NaN of a sign. -/
def notANumber (negative : Bool) : Binary64 := Binary64.assemble negative 2047 (Nat.pow 2 51)

/-- Whether a text starts with a word, in any case. -/
def startsWithWord (cs : List Char) (w : String) : Bool :=
  (cs.take w.length).map Char.toLower == w.toList

/-- The characters `nan` takes: three, or more with a closed `(chars)` after it. -/
def nanLength (cs : List Char) : Nat :=
  match cs.drop 3 with
  | '(' :: rest =>
    let inner := rest.takeWhile fun c => c.isAlphanum || c == '_'
    if (rest.drop inner.length).head? == some ')' then 3 + inner.length + 2 else 3
  | _ => 3

/-- A binary value `h × 2 ^ e` rounded to the nearest pattern; `none` when it overflows. -/
def ofBinary (negative : Bool) (h : Nat) (e : Int) : Option Binary64 :=
  let size : Int := (Binary64.bitLength h : Int) + e
  if h == 0 then some (Binary64.zero negative)
  else if size > 1100 then none
  else if size < -1200 then some (Binary64.zero negative)
  else if e ≥ 0 then Binary64.ofRatio negative (h * Nat.pow 2 e.toNat) 1
  else Binary64.ofRatio negative h (Nat.pow 2 (-e).toNat)

/-- An optional exponent: a letter of `letters`, a sign and decimal digits. Its value and the
characters it takes; nothing when no digit follows. -/
def exponentPart (letters : List Char) (cs : List Char) : Int × Nat :=
  match cs with
  | l :: rest =>
    if letters.contains l then
      let (neg, body, signLen) := match rest with
        | '-' :: more => (true, more, 1)
        | '+' :: more => (false, more, 1)
        | more => (false, more, 0)
      let (v, n) := digitRun 10 body
      if n == 0 then (0, 0) else (if neg then -(v : Int) else v, 1 + signLen + n)
    else (0, 0)
  | [] => (0, 0)

/-- Digits, an optional point and more digits, in a base: the value of all the digits, how many
follow the point, and the characters taken; `none` when there is no digit. -/
def significand (base : Nat) (cs : List Char) : Option (Nat × Nat × Nat) :=
  let (whole, n) := digitRun base cs
  match cs.drop n with
  | '.' :: rest =>
    let fracDigits := rest.takeWhile fun c => (digitIn base c).isSome
    if n + fracDigits.length == 0 then none
    else
      let v := fracDigits.foldl (fun v c => base * v + (digitIn base c).getD 0) whole
      some (v, fracDigits.length, n + 1 + fracDigits.length)
  | _ => if n == 0 then none else some (whole, 0, n)

/-- Whether reading the non-zero exact value `num / den` into `x` underflows: rounded to 53 bits
without an exponent limit it stays below `2 ^ -1022` (it is below `2 ^ -1022 - 2 ^ -1076`), and
`x` is not exactly it. -/
def underflows (num den : Nat) (x : Binary64) : Bool :=
  num != 0 && num * Nat.pow 2 1076 < den * (Nat.pow 2 54 - 1) &&
    (let (a, b) := x.magnitude.ratio
     a * den != num * b)

/-- The exact value `d × 10 ^ e` as a ratio. -/
def decimalRatio (d : Nat) (e : Int) : Nat × Nat :=
  if e ≥ 0 then (d * Nat.pow 10 e.toNat, 1) else (d, Nat.pow 10 (-e).toNat)

/-- Whether reading `d × 10 ^ e` into `x` underflows; values far below the range do without
computing their powers. -/
def decimalUnderflows (d : Nat) (e : Int) (x : Binary64) : Bool :=
  if d == 0 then false
  else if e + ((Nat.repr d).length : Int) < -330 then true
  else if e + ((Nat.repr d).length : Int) > 310 then false
  else
    let (num, den) := decimalRatio d e
    underflows num den x

/-- Whether reading `h × 2 ^ e` into `x` underflows. -/
def binaryUnderflows (h : Nat) (e : Int) (x : Binary64) : Bool :=
  let size : Int := (Binary64.bitLength h : Int) + e
  if h == 0 then false
  else if size < -1200 then true
  else if size > 1100 then false
  else if e ≥ 0 then underflows (h * Nat.pow 2 e.toNat) 1 x
  else underflows h (Nat.pow 2 (-e).toNat) x

/-- Read a floating value from the front of a text (`strtod`). -/
def readFloat (s : String) : Numeral Binary64 :=
  let cs := s.toList
  let (lead, negative) := signPart cs
  let body := cs.drop lead
  let none_ : Numeral Binary64 := { value := Binary64.zero false, used := 0 }
  let finish (value : Option Binary64) (under : Binary64 → Bool) (n : Nat) : Numeral Binary64 :=
    match value with
    | none => { value := infinity negative, used := lead + n, outOfRange := true }
    | some v => { value := v, used := lead + n, outOfRange := under v }
  if startsWithWord body "infinity" then { value := infinity negative, used := lead + 8 }
  else if startsWithWord body "inf" then { value := infinity negative, used := lead + 3 }
  else if startsWithWord body "nan" then { value := notANumber negative, used := lead + nanLength body }
  else
    match body with
    | '0' :: x :: rest =>
      if x == 'x' || x == 'X' then
        match significand 16 rest with
        | some (h, frac, n) =>
          let (e, en) := exponentPart ['p', 'P'] (rest.drop n)
          finish (ofBinary negative h (e - 4 * (frac : Int)))
            (binaryUnderflows h (e - 4 * (frac : Int))) (2 + n + en)
        | none => finish (some (Binary64.zero negative)) (fun _ => false) 1
      else
        match significand 10 body with
        | some (d, frac, n) =>
          let (e, en) := exponentPart ['e', 'E'] (body.drop n)
          finish (Binary64.ofDecimal negative d (e - (frac : Int)))
            (decimalUnderflows d (e - (frac : Int))) (n + en)
        | none => none_
    | _ =>
      match significand 10 body with
      | some (d, frac, n) =>
        let (e, en) := exponentPart ['e', 'E'] (body.drop n)
        finish (Binary64.ofDecimal negative d (e - (frac : Int)))
          (decimalUnderflows d (e - (frac : Int))) (n + en)
      | none => none_

end Numeral

end HostAgent.Shell
