import HostAgent.Json.Value
import HostAgent.Decimal.Scale

/-!
# `HostAgent.Json.Reader` — reading JSON text

The reader takes one complete document: blanks (space, tab, line feed, carriage return) may
surround it and nothing else may follow. Containers nest at most `maxDepth - 1` deep.

* Integers without fraction or exponent keep an integer kind when they fit one: `0 ≤ n < 2 ^ 64`,
  or `-2 ^ 63 ≤ n ≤ -1`; `-0` and every other integer become binary64 values.
* Other numbers keep at most 64 bits of significand and are scaled by their decimal exponent in
  binary64 steps (`Binary64.scaleByTen`), which may miss the nearest value by one unit; one too
  large to be finite is refused.
* A leading zero may not be followed by a digit, and a point or an exponent needs digits.
* Strings refuse raw control characters, unknown escapes and unpaired surrogate escapes.
* Object fields come out sorted by key, the last of equal keys kept (`Value.sortFields`).

Each step consumes input before it recurses, so a fuel of twice the input length never runs out
on a document the grammar accepts.
-/

namespace HostAgent.Json

open HostAgent.Decimal

/-- Why a text is not a JSON document. -/
inductive ReadError where
  | unexpectedEnd
  | unexpected (c : Char)
  | invalidNumber
  | numberOutOfRange
  | invalidEscape
  | controlCharacter
  | loneSurrogate
  | depthExceeded
  | trailing
  | exhausted
  deriving Repr, DecidableEq

/-- Containers may be entered this many times less one. -/
def maxDepth : Nat := 128

/-- A JSON blank. -/
def isBlank (c : Char) : Bool := c == ' ' || c == '\t' || c == '\n' || c == '\r'

/-- Drop leading blanks. -/
def skipBlanks (cs : List Char) : List Char := cs.dropWhile isBlank

/-- The value of four hexadecimal digits. -/
def hex4 : List Char → Option (Nat × List Char)
  | a :: b :: c :: d :: rest =>
    let digit (x : Char) : Option Nat :=
      if x.isDigit then some (x.toNat - 48)
      else if 'a' ≤ x ∧ x ≤ 'f' then some (x.toNat - 87)
      else if 'A' ≤ x ∧ x ≤ 'F' then some (x.toNat - 55)
      else none
    match digit a, digit b, digit c, digit d with
    | some w, some x, some y, some z => some (((w * 16 + x) * 16 + y) * 16 + z, rest)
    | _, _, _, _ => none
  | _ => none

/-- The largest unsigned 64-bit integer. -/
def maxSignificand : Nat := 18446744073709551615

/-- Whether `10 × a + d` passes `maxSignificand`. -/
def overflows (a d : Nat) : Bool :=
  a > maxSignificand / 10 || (a == maxSignificand / 10 && d > maxSignificand % 10)

/-- The largest signed 32-bit integer, the bound of exponents. -/
def maxExponent : Int := 2147483647

/-- An exponent kept within the signed 32-bit range. -/
def saturate (e : Int) : Int := max (-maxExponent - 1) (min maxExponent e)

/-- Integer digits into a significand: the significand, how many digits did not fit into 64 bits
(from the first that would overflow on), and what follows the digits. -/
def integerDigits (sig dropped : Nat) : List Char → Nat × Nat × List Char
  | c :: rest =>
    if c.isDigit then
      let d := c.toNat - 48
      if dropped > 0 || overflows sig d then integerDigits sig (dropped + 1) rest
      else integerDigits (10 * sig + d) 0 rest
    else (sig, dropped, c :: rest)
  | [] => (sig, dropped, [])

/-- Fraction digits into a significand: the significand, how many digits it took, and what
follows; from the first digit that would overflow on, the digits are skipped. -/
def fractionDigits (sig taken : Nat) (stopped : Bool) : List Char → Nat × Nat × List Char
  | c :: rest =>
    if c.isDigit then
      let d := c.toNat - 48
      if stopped || overflows sig d then fractionDigits sig taken true rest
      else fractionDigits (10 * sig + d) (taken + 1) false rest
    else (sig, taken, c :: rest)
  | [] => (sig, taken, [])

/-- Exponent digits after the first: the value, or `none` once it passes the 32-bit bound (the
remaining digits are still skipped), and what follows. -/
def exponentDigits (e : Option Nat) : List Char → Option Nat × List Char
  | c :: rest =>
    if c.isDigit then
      let d := c.toNat - 48
      match e with
      | some v =>
        if v > 214748364 || (v == 214748364 && d > 7) then exponentDigits none rest
        else exponentDigits (some (10 * v + d)) rest
      | none => exponentDigits none rest
    else (e, c :: rest)
  | [] => (e, [])

/-- A significand and a decimal exponent as a binary64 value, the quick way
(`Binary64.scaleByTen`). -/
def fromParts (negative : Bool) (sig : Nat) (exponent : Int) : Except ReadError Number :=
  match Binary64.scaleByTen negative sig exponent with
  | some x => .ok (.float x)
  | none => .error .numberOutOfRange

/-- The exponent part after `e`: its sign, at least one digit, and the value with the exponent
so far; an exponent beyond 32 bits gives a zero, or is refused for a non-zero significand and a
positive exponent. -/
def exponentPart (negative : Bool) (sig : Nat) (start : Int) (cs : List Char) :
    Except ReadError (Number × List Char) := do
  let (expNegative, cs) := match cs with
    | '-' :: r => (true, r)
    | '+' :: r => (false, r)
    | _ => (false, cs)
  match cs with
  | c :: rest =>
    if !c.isDigit then throw .invalidNumber
    match exponentDigits (some (c.toNat - 48)) rest with
    | (some e, r) =>
      let final := saturate (if expNegative then start - e else start + e)
      return (← fromParts negative sig final, r)
    | (none, r) =>
      if sig != 0 && !expNegative then throw .numberOutOfRange
      else return (.float (Binary64.zero negative), r)
  | [] => throw .unexpectedEnd

/-- A number token: sign, integer part, optional fraction, optional exponent. The integer part
and the fraction collect up to 64 bits of significand; the value is built from the significand
and the decimal exponent by `fromParts`. An integer without fraction and exponent that fits
stays an integer: `0 ≤ n < 2 ^ 64`, or `-n` for `1 ≤ n ≤ 2 ^ 63`. -/
def readNumber (cs : List Char) : Except ReadError (Number × List Char) := do
  let (negative, cs) := match cs with
    | '-' :: rest => (true, rest)
    | _ => (false, cs)
  let (sig, dropped, rest) ← match cs with
    | '0' :: rest =>
      match rest with
      | c :: _ => if c.isDigit then throw .invalidNumber else pure (0, 0, rest)
      | [] => pure (0, 0, rest)
    | c :: _ =>
      if c.isDigit then pure (integerDigits 0 0 cs) else throw .invalidNumber
    | [] => throw .unexpectedEnd
  let start := saturate dropped
  match rest with
  | '.' :: more =>
    match more with
    | c :: _ =>
      if !c.isDigit then throw .invalidNumber
      let (sig, taken, r) := fractionDigits sig 0 false more
      let start := saturate (start - taken)
      match r with
      | e :: r2 =>
        if e == 'e' || e == 'E' then exponentPart negative sig start r2
        else return (← fromParts negative sig start, r)
      | [] => return (← fromParts negative sig start, r)
    | [] => throw .unexpectedEnd
  | e :: r2 =>
    if e == 'e' || e == 'E' then exponentPart negative sig start r2
    else if dropped > 0 then return (← fromParts negative sig start, rest)
    else if !negative then return (.natural sig, rest)
    else if 1 ≤ sig ∧ sig ≤ Nat.pow 2 63 then return (.negative sig, rest)
    else return (← fromParts true sig 0, rest)
  | [] =>
    if dropped > 0 then return (← fromParts negative sig start, rest)
    else if !negative then return (.natural sig, rest)
    else if 1 ≤ sig ∧ sig ≤ Nat.pow 2 63 then return (.negative sig, rest)
    else return (← fromParts true sig 0, rest)

/-- The characters of a string body up to its closing quote, escapes resolved. -/
def readStringBody (fuel : Nat) (acc : List Char) (cs : List Char) :
    Except ReadError (String × List Char) :=
  match fuel with
  | 0 => .error .exhausted
  | fuel + 1 =>
    match cs with
    | [] => .error .unexpectedEnd
    | '"' :: rest => .ok (String.ofList acc.reverse, rest)
    | '\\' :: rest =>
      match rest with
      | '"' :: r => readStringBody fuel ('"' :: acc) r
      | '\\' :: r => readStringBody fuel ('\\' :: acc) r
      | '/' :: r => readStringBody fuel ('/' :: acc) r
      | 'b' :: r => readStringBody fuel (Char.ofNat 8 :: acc) r
      | 'f' :: r => readStringBody fuel (Char.ofNat 12 :: acc) r
      | 'n' :: r => readStringBody fuel ('\n' :: acc) r
      | 'r' :: r => readStringBody fuel ('\r' :: acc) r
      | 't' :: r => readStringBody fuel ('\t' :: acc) r
      | 'u' :: r =>
        match hex4 r with
        | none => .error .invalidEscape
        | some (code, r) =>
          if 0xD800 ≤ code ∧ code < 0xDC00 then
            match r with
            | '\\' :: 'u' :: r2 =>
              match hex4 r2 with
              | some (low, r3) =>
                if 0xDC00 ≤ low ∧ low < 0xE000 then
                  let c := Char.ofNat (0x10000 + (code - 0xD800) * 0x400 + (low - 0xDC00))
                  readStringBody fuel (c :: acc) r3
                else .error .loneSurrogate
              | none => .error .invalidEscape
            | _ => .error .loneSurrogate
          else if 0xDC00 ≤ code ∧ code < 0xE000 then .error .loneSurrogate
          else readStringBody fuel (Char.ofNat code :: acc) r
      | _ => .error .invalidEscape
    | c :: rest =>
      if c.toNat < 32 then .error .controlCharacter
      else readStringBody fuel (c :: acc) rest

/-- A literal word such as `true`. -/
def expectWord (word : List Char) (cs : List Char) : Except ReadError (List Char) :=
  if word.isPrefixOf cs then .ok (cs.drop word.length)
  else match cs with
    | [] => .error .unexpectedEnd
    | c :: _ => .error (.unexpected c)

mutual
/-- One value at nesting `depth`, after leading blanks. -/
def readValue (depth : Nat) (fuel : Nat) (cs : List Char) : Except ReadError (Value × List Char) :=
  match fuel with
  | 0 => .error .exhausted
  | fuel + 1 =>
    match skipBlanks cs with
    | [] => .error .unexpectedEnd
    | 'n' :: _ => do let r ← expectWord "null".toList (skipBlanks cs); pure (.null, r)
    | 't' :: _ => do let r ← expectWord "true".toList (skipBlanks cs); pure (.bool true, r)
    | 'f' :: _ => do let r ← expectWord "false".toList (skipBlanks cs); pure (.bool false, r)
    | '"' :: rest => do
      let (s, r) ← readStringBody (rest.length + 1) [] rest
      pure (.str s, r)
    | '[' :: rest =>
      if depth + 1 ≥ maxDepth then .error .depthExceeded
      else
        match skipBlanks rest with
        | ']' :: r => .ok (.arr [], r)
        | _ => readItems (depth + 1) fuel [] rest
    | '{' :: rest =>
      if depth + 1 ≥ maxDepth then .error .depthExceeded
      else
        match skipBlanks rest with
        | '}' :: r => .ok (.obj [], r)
        | _ => readFields (depth + 1) fuel [] rest
    | c :: _ =>
      if c == '-' || c.isDigit then do
        let (n, r) ← readNumber (skipBlanks cs)
        pure (.num n, r)
      else .error (.unexpected c)

/-- The items of an array after `[`, each followed by `,` or the closing `]`. -/
def readItems (depth : Nat) (fuel : Nat) (acc : List Value) (cs : List Char) :
    Except ReadError (Value × List Char) :=
  match fuel with
  | 0 => .error .exhausted
  | fuel + 1 => do
    let (v, r) ← readValue depth fuel cs
    match skipBlanks r with
    | ',' :: more => readItems depth fuel (v :: acc) more
    | ']' :: more => pure (.arr (v :: acc).reverse, more)
    | [] => throw .unexpectedEnd
    | c :: _ => throw (.unexpected c)

/-- The fields of an object after its opening brace: a string key, `:`, a value, then `,` or
the closing brace. -/
def readFields (depth : Nat) (fuel : Nat) (acc : List (String × Value)) (cs : List Char) :
    Except ReadError (Value × List Char) :=
  match fuel with
  | 0 => .error .exhausted
  | fuel + 1 => do
    match skipBlanks cs with
    | '"' :: rest =>
      let (k, r) ← readStringBody (rest.length + 1) [] rest
      match skipBlanks r with
      | ':' :: more =>
        let (v, r2) ← readValue depth fuel more
        match skipBlanks r2 with
        | ',' :: more2 => readFields depth fuel ((k, v) :: acc) more2
        | '}' :: more2 => pure (.obj (Value.sortFields (acc.reverse ++ [(k, v)])), more2)
        | [] => throw .unexpectedEnd
        | c :: _ => throw (.unexpected c)
      | [] => throw .unexpectedEnd
      | c :: _ => throw (.unexpected c)
    | [] => throw .unexpectedEnd
    | c :: _ => throw (.unexpected c)
end

/-- Read a whole document; only blanks may surround it. -/
def Value.read (text : String) : Except ReadError Value := do
  let cs := text.toList
  let (v, rest) ← readValue 0 (2 * cs.length + 4) cs
  if (skipBlanks rest).isEmpty then pure v else throw .trailing

end HostAgent.Json
