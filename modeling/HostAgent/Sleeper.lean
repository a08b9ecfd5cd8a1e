import HostAgent.Host.World

/-!
# `HostAgent.Sleeper` — waiting between upload attempts

A sleeper either waits for real, letting the world's clock move on, or only records the waits it
was asked for and returns at once.
-/

namespace HostAgent

open HostAgent.Time

/-- How the agent waits. -/
inductive Sleeper where
  /-- Wait for real: time passes. -/
  | real
  /-- Record the wait and return at once. -/
  | recording
  deriving Repr, DecidableEq, Inhabited

/-- Wait for a duration. -/
def Sleeper.sleep : Sleeper → Duration → Agent Unit
  | .real, d => Agent.advance d
  | .recording, d => modify fun w => { w with sleeps := w.sleeps.push d }

end HostAgent
