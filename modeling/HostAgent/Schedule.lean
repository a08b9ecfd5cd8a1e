import HostAgent.Host.World

/-!
# `HostAgent.Schedule` — the periodic schedule

A schedule is what triggers periodic runs of the agent. `removeScheduling` answers whether an
entry was removed:

* a cron entry is a file or link at a path; when nothing is there the answer is `false`; when the
  path cannot be examined the file system fault stands; when the entry cannot be removed the fault
  is a schedule fault naming the entry;
* an immutable entry refuses every removal with a schedule fault, and counts the attempts.
-/

namespace HostAgent

open HostAgent.Host

/-- What triggers periodic runs. -/
inductive Scheduler where
  /-- An entry (usually a link) in a cron directory. -/
  | cron (path : String)
  /-- An entry that cannot be removed. -/
  | immutable
  deriving Repr, DecidableEq, Inhabited

/-- Remove the schedule; answers whether an entry was removed. -/
def Scheduler.removeScheduling : Scheduler → Agent Bool
  | .cron path => do
    match ← Agent.query fun t cwd => t.lstat cwd path with
    | .error .notFound =>
      Agent.debug ("No schedule entry at " ++ path)
      return false
    | .error e => throw (.io e)
    | .ok _ => pure ()
    match ← Agent.attempt fun t cwd => t.removeFile cwd path with
    | .error e => throw (.schedule ("Failed to remove schedule entry " ++ path ++ ": " ++ e.message))
    | .ok () => pure ()
    Agent.debug ("Automatic scheduling disabled (" ++ path ++ " removed)")
    pure true
  | .immutable => do
    modify fun w => { w with scheduleAttempts := w.scheduleAttempts + 1 }
    throw (.schedule "cron entry is immutable")

end HostAgent
