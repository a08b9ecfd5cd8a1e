import HostAgent.Config.Json
import HostAgent.Toml.Reader
import HostAgent.Host.World

/-!
# `HostAgent.Config.Load` — settings from a file

`AgentConfig.ofToml` reads settings from TOML text. `loadOrDefault` reads the file at a path:
the defaults when nothing is there, the file's settings when it reads as UTF-8 TOML text that fits
the settings, and otherwise a fault — a file system fault when the file cannot be read as text, a
configuration fault naming the path when its text is not valid settings.
-/

namespace HostAgent.Config

open HostAgent.Host

/-- Settings from TOML text, or the reason it holds none. -/
def AgentConfig.ofToml (text : String) : Except String AgentConfig :=
  match Toml.Value.ofToml text with
  | .ok doc => AgentConfig.ofJson? doc.toJson
  | .error e => .error e.message

/-- Read a file as text: its bytes must be UTF-8. -/
def readText (path : String) : Agent String := do
  let bytes ← Agent.orIo (← Agent.query fun t cwd => t.readFile cwd path)
  match String.fromUTF8? bytes with
  | some text => pure text
  | none => throw (.io .invalidUtf8)

/-- The settings in the file at `path`, or the defaults when nothing is there. -/
def loadOrDefault (path : String) : Agent AgentConfig := do
  if !(← Agent.query fun t cwd => t.exists? cwd path) then return {}
  let text ← readText path
  match AgentConfig.ofToml text with
  | .ok c => pure c
  | .error e => throw (.config ("Failed to parse config file " ++ path ++ ": " ++ e))

end HostAgent.Config
