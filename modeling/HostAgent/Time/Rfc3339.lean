import HostAgent.Time.Instant

/-!
# `HostAgent.Time.Rfc3339` — reading RFC 3339 timestamps

`Instant.ofRfc3339` reads `YYYY-MM-DD`, a `T`, `t` or space, `HH:MM:SS`, an optional fraction of
one or more digits (the first nine count), and an offset `Z`, `z` or `±HH:MM` (the sign may also
be U+2212), and nothing after it. The text is read as UTF-8 bytes, left to right, and the first
problem met decides the error:

* `tooShort` — the text ends where a field or separator should be;
* `invalid` — a byte that the field or separator cannot hold;
* `outOfRange` — a month, day, hour, minute or second outside its range, an offset minute of 60
  or more, an offset beyond 23:59, or a date the calendar does not have;
* `tooLong` — text after the offset.

Second `60` is a leap second and is kept as such.
-/

namespace HostAgent.Time

/-- Why a text is not an RFC 3339 timestamp. -/
inductive ParseError where
  | outOfRange
  | invalid
  | tooShort
  | tooLong
  deriving Repr, DecidableEq

/-- The text that reports each problem. -/
def ParseError.message : ParseError → String
  | .outOfRange => "input is out of range"
  | .invalid => "input contains invalid characters"
  | .tooShort => "premature end of input"
  | .tooLong => "trailing input"

namespace Rfc3339

/-- An ASCII digit byte. -/
def isDigit (b : UInt8) : Bool := 48 ≤ b && b ≤ 57

/-- The value of digit bytes. -/
def value (ds : List UInt8) : Nat := ds.foldl (fun n d => 10 * n + (d.toNat - 48)) 0

/-- Between `lo` and `hi` digits: too short when fewer than `lo` bytes are left, invalid when
fewer than `lo` digits lead. -/
def number (s : List UInt8) (lo hi : Nat) : Except ParseError (Nat × List UInt8) :=
  if s.length < lo then .error .tooShort
  else
    let ds := (s.take hi).takeWhile isDigit
    if ds.length < lo then .error .invalid else .ok (value ds, s.drop ds.length)

/-- One expected byte. -/
def expect (s : List UInt8) (c : Char) : Except ParseError (List UInt8) :=
  match s with
  | [] => .error .tooShort
  | b :: rest => if b.toNat == c.toNat then .ok rest else .error .invalid

/-- A field value that must lie in `lo ..= hi`. -/
def within (n lo hi : Nat) : Except ParseError Unit :=
  if lo ≤ n ∧ n ≤ hi then .ok () else .error .outOfRange

/-- The fraction after the point: its first nine digits as nanoseconds, later digits skipped. -/
def fraction (s : List UInt8) : Except ParseError (Nat × List UInt8) := do
  let (v, rest) ← number s 1 9
  let used := s.length - rest.length
  pure (v * Nat.pow 10 (9 - used), rest.dropWhile isDigit)

/-- The bytes of U+2212, the minus sign. -/
def minusSign : List UInt8 := [0xE2, 0x88, 0x92]

/-- The offset in seconds east of UTC. -/
def offset (s : List UInt8) : Except ParseError (Int × List UInt8) := do
  match s with
  | [] => throw .tooShort
  | b :: rest =>
    if b.toNat == 'Z'.toNat || b.toNat == 'z'.toNat then return (0, rest)
    let (negative, s) ←
      if b.toNat == '+'.toNat then pure (false, rest)
      else if b.toNat == '-'.toNat then pure (true, rest)
      else if minusSign.isPrefixOf s then pure (true, s.drop 3)
      else throw .invalid
    let hours ← match s with
      | h1 :: h2 :: _ => if isDigit h1 && isDigit h2 then pure (value [h1, h2]) else throw .invalid
      | _ => throw .tooShort
    let s ← expect (s.drop 2) ':'
    let minutes ← match s with
      | m1 :: m2 :: _ =>
        if isDigit m2 && 48 ≤ m1 && m1 ≤ 53 then pure (value [m1, m2])
        else if isDigit m2 && 54 ≤ m1 && m1 ≤ 57 then throw .outOfRange
        else throw .invalid
      | _ => throw .tooShort
    let seconds : Int := hours * 3600 + minutes * 60
    pure (if negative then -seconds else seconds, s.drop 2)

end Rfc3339

open Rfc3339 in
/-- Read an RFC 3339 timestamp. -/
def Instant.ofRfc3339 (text : String) : Except ParseError Instant := do
  let s := text.toUTF8.toList
  let (year, s) ← number s 4 4
  let s ← expect s '-'
  let (month, s) ← number s 2 2
  within month 1 12
  let s ← expect s '-'
  let (day, s) ← number s 2 2
  within day 1 31
  let s ← match s with
    | [] => throw .tooShort
    | b :: rest =>
      if b.toNat == 'T'.toNat || b.toNat == 't'.toNat || b.toNat == ' '.toNat then pure rest
      else throw .invalid
  let (hour, s) ← number s 2 2
  within hour 0 23
  let s ← expect s ':'
  let (minute, s) ← number s 2 2
  within minute 0 59
  let s ← expect s ':'
  let (second, s) ← number s 2 2
  within second 0 60
  let (nanos, s) ← match s with
    | b :: rest => if b.toNat == '.'.toNat then fraction rest else pure (0, s)
    | [] => pure (0, s)
  let (off, s) ← offset s
  if off.natAbs > (23 * 60 + 59) * 60 then throw .outOfRange
  if !s.isEmpty then throw .tooLong
  let date : Date := ⟨year, month, day⟩
  if !date.isValid then throw .outOfRange
  let (second, nanos) := if second == 60 then (59, nanos + 1000000000) else (second, nanos)
  let wall := daysFromCivil date * 86400 + (hour * 3600 + minute * 60 + second : Nat)
  pure ⟨wall - off, nanos⟩

end HostAgent.Time
