import HostAgent.Host.World
import HostAgent.Text.Blank

/-!
# `HostAgent.Host.Name` — the system's host name

The host name is the first non-blank, trimmed text of `/proc/sys/kernel/hostname` and
`/etc/hostname` that can be read as UTF-8, else the `HOSTNAME` variable when it is not empty,
else `localhost`.
-/

namespace HostAgent.Agent

open HostAgent.Host

/-- The trimmed text of a file, when it can be read as UTF-8 and is not blank. -/
def nameIn (path : String) : Agent (Option String) := do
  match ← query fun t cwd => t.readFile cwd path with
  | .ok bytes =>
    match String.fromUTF8? bytes with
    | some text =>
      let name := Text.trim text
      pure (if name.isEmpty then none else some name)
    | none => pure none
  | .error _ => pure none

/-- The system's host name. -/
def systemHostname : Agent String := do
  if let some name ← nameIn "/proc/sys/kernel/hostname" then return name
  if let some name ← nameIn "/etc/hostname" then return name
  match ← env? "HOSTNAME" with
  | some name => pure (if name.isEmpty then "localhost" else name)
  | none => pure "localhost"

end HostAgent.Agent
