/-!
# `HostAgent.Time.Instant` — points in time and their RFC 3339 text

An instant counts seconds from 1970-01-01T00:00:00 UTC and nanoseconds within the second; a
nanosecond count of one second or more marks a leap second, which is written as second `60`.

Calendar dates are proleptic Gregorian: `daysFromCivil` and `civilOfDays` convert between a date
and the days since 1970-01-01 through 400-year eras of 146097 days, and are each other's inverse.

`Instant.rfc3339` writes an instant in UTC as `YYYY-MM-DDTHH:MM:SS[.fff]+00:00`: the fraction is
left out when it is zero and otherwise has 3, 6 or 9 digits, the fewest that hold it exactly; a
year outside 0 to 9999 carries its sign and at least four digits.
-/

namespace HostAgent.Time

/-- A calendar date: year, month 1 to 12, day 1 to 31. -/
structure Date where
  year : Int
  month : Nat
  day : Nat
  deriving Repr, DecidableEq

/-- Whether a year has 29 February. -/
def isLeapYear (y : Int) : Bool := (y % 4 == 0 && y % 100 != 0) || y % 400 == 0

/-- The number of days of a month. -/
def daysInMonth (y : Int) (m : Nat) : Nat :=
  match m with
  | 1 | 3 | 5 | 7 | 8 | 10 | 12 => 31
  | 4 | 6 | 9 | 11 => 30
  | 2 => if isLeapYear y then 29 else 28
  | _ => 0

/-- Whether a year, month and day name a day of the calendar. -/
def Date.isValid (d : Date) : Bool :=
  1 ≤ d.month && d.month ≤ 12 && 1 ≤ d.day && d.day ≤ daysInMonth d.year d.month

/-- Days from 1970-01-01 to a date. -/
def daysFromCivil (d : Date) : Int :=
  let y : Int := if d.month ≤ 2 then d.year - 1 else d.year
  let era := y.fdiv 400
  let yoe := y - era * 400
  let m : Int := d.month
  let mp := if m > 2 then m - 3 else m + 9
  let doy := (153 * mp + 2) / 5 + (d.day : Int) - 1
  let doe := yoe * 365 + yoe / 4 - yoe / 100 + doy
  era * 146097 + doe - 719468

/-- The date that lies a number of days after 1970-01-01. -/
def civilOfDays (z : Int) : Date :=
  let z := z + 719468
  let era := z.fdiv 146097
  let doe := z - era * 146097
  let yoe := (doe - doe / 1460 + doe / 36524 - doe / 146096) / 365
  let y := yoe + era * 400
  let doy := doe - (365 * yoe + yoe / 4 - yoe / 100)
  let mp := (5 * doy + 2) / 153
  let d := doy - (153 * mp + 2) / 5 + 1
  let m := if mp < 10 then mp + 3 else mp - 9
  ⟨if m ≤ 2 then y + 1 else y, m.toNat, d.toNat⟩

/-- A point in time. -/
structure Instant where
  /-- Seconds since 1970-01-01T00:00:00 UTC. -/
  seconds : Int
  /-- Nanoseconds within the second; `10 ^ 9` or more marks a leap second. -/
  nanos : Nat
  deriving Repr, DecidableEq, Inhabited

/-- Two digits of a number below 100. -/
def twoDigits (n : Nat) : String :=
  String.ofList [Char.ofNat (48 + n / 10 % 10), Char.ofNat (48 + n % 10)]

/-- A number with leading zeros up to `width` digits. -/
def padded (width n : Nat) : String :=
  let s := toString n
  String.ofList (List.replicate (width - s.length) '0') ++ s

/-- The year as RFC 3339 writes it: four digits, or a sign and at least four digits. -/
def yearText (y : Int) : String :=
  if 0 ≤ y ∧ y ≤ 9999 then padded 4 y.toNat
  else (if y < 0 then "-" else "+") ++ padded 4 y.natAbs

/-- The fraction of a second: nothing for zero, else the fewest of 3, 6 or 9 digits. -/
def fractionText (nanos : Nat) : String :=
  if nanos == 0 then ""
  else if nanos % 1000000 == 0 then "." ++ padded 3 (nanos / 1000000)
  else if nanos % 1000 == 0 then "." ++ padded 6 (nanos / 1000)
  else "." ++ padded 9 nanos

namespace Instant

/-- The instant as RFC 3339 text in UTC. -/
def rfc3339 (t : Instant) : String :=
  let days := t.seconds.fdiv 86400
  let secs := (t.seconds - days * 86400).toNat
  let date := civilOfDays days
  let leap := t.nanos ≥ 1000000000
  let sec := secs % 60 + (if leap then 1 else 0)
  let nanos := if leap then t.nanos - 1000000000 else t.nanos
  yearText date.year ++ "-" ++ twoDigits date.month ++ "-" ++ twoDigits date.day ++ "T" ++
    twoDigits (secs / 3600) ++ ":" ++ twoDigits (secs / 60 % 60) ++ ":" ++ twoDigits sec ++
    fractionText nanos ++ "+00:00"

end Instant

end HostAgent.Time
