import HostAgent.Time.Instant

/-!
# `HostAgent.Host.Journal` — the agent's log events

An event has a level, a message, the time it was emitted at and the spans it was emitted in,
outermost first. A span is the
label of an operation that was running, such as `upload_archive{generation=legacy size=13}`.
Levels are ordered from `trace`, the most detailed, to `error`.
-/

namespace HostAgent.Host

/-- How important an event is. -/
inductive Level where
  | trace
  | debug
  | info
  | warn
  | error
  deriving Repr, DecidableEq, Inhabited

namespace Level

/-- Rank of a level, `trace` lowest. -/
def rank : Level → Nat
  | trace => 0
  | debug => 1
  | info => 2
  | warn => 3
  | error => 4

/-- The upper-case name of a level. -/
def label : Level → String
  | trace => "TRACE"
  | debug => "DEBUG"
  | info => "INFO"
  | warn => "WARN"
  | error => "ERROR"

/-- Whether a level is at least as important as another. -/
def atLeast (l floor : Level) : Bool := floor.rank ≤ l.rank

end Level

/-- One log event. -/
structure Event where
  level : Level
  message : String
  /-- The spans that were open, outermost first. -/
  spans : List String := []
  /-- When it was emitted. -/
  time : Time.Instant := ⟨0, 0⟩
  deriving Repr, DecidableEq, Inhabited

/-- An event as `LEVEL message`. -/
def Event.line (e : Event) : String := e.level.label ++ " " ++ e.message

/-- The span prefix of an event: each span followed by `:`, then a blank, or nothing. -/
def Event.spanPrefix (e : Event) : String :=
  if e.spans.isEmpty then "" else ":".intercalate e.spans ++ ": "

end HostAgent.Host
