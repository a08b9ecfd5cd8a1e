import HostAgent.Host.World

/-!
# `HostAgent.Housekeeping` — best-effort steps

Some steps are housekeeping: removing the schedule, clearing cached files after unregistering.
A failure there must not turn a confirmed change of the remote state into a reported failure, so
`Agent.failOpen` runs such a step, reports its failure as a warning and answers `none` instead of
failing. Markers, upload records and remote calls never go through it.
-/

namespace HostAgent.Agent

/-- Run a housekeeping step: its value, or `none` and a warning when it fails. -/
def failOpen (name : String) (act : Agent α) : Agent (Option α) :=
  tryCatch (do pure (some (← act))) fun e => do
    warn (name ++ " failed (fail-open): " ++ e.message)
    pure none

end HostAgent.Agent
