/-!
# `HostAgent.Time.Duration` — spans of time

A duration is whole seconds and the nanoseconds below one second. Durations are built from
seconds or milliseconds; milliseconds split into `ms / 1000` seconds and the rest times a million
nanoseconds, so every count of milliseconds has a duration.
-/

namespace HostAgent.Time

/-- A span of time: whole seconds and the nanoseconds below one second. -/
structure Duration where
  /-- Whole seconds. -/
  secs : Nat
  /-- Nanoseconds below one second. -/
  nanos : Nat
  deriving Repr, DecidableEq, Inhabited

namespace Duration

/-- The nanoseconds in one second. -/
def nanosPerSecond : Nat := 1000000000

/-- A whole number of seconds. -/
def ofSecs (s : Nat) : Duration := ⟨s, 0⟩

/-- A number of milliseconds. -/
def ofMillis (ms : Nat) : Duration := ⟨ms / 1000, (ms % 1000) * 1000000⟩

/-- The duration of no time. -/
def zero : Duration := ⟨0, 0⟩

/-- The whole duration in nanoseconds. -/
def toNanos (d : Duration) : Nat := d.secs * nanosPerSecond + d.nanos

/-- Two durations one after the other. -/
def add (a b : Duration) : Duration :=
  let n := a.toNanos + b.toNanos
  ⟨n / nanosPerSecond, n % nanosPerSecond⟩

theorem ofMillis_toNanos (ms : Nat) : (ofMillis ms).toNanos = ms * 1000000 := by
  simp only [ofMillis, toNanos, nanosPerSecond]
  omega

end Duration

end HostAgent.Time
