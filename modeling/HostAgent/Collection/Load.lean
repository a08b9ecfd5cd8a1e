import HostAgent.Collection.Rules
import HostAgent.Config.Load
import HostAgent.Json.Reader

/-!
# `HostAgent.Collection.Load` — rules and exclusions from local files

* `loadRules` reads a JSON rule document: no path means no rules; a file that cannot be read as
  text is a configuration fault naming it; text that is not one JSON document is a serialization
  fault.
* `loadRemovalConfig` reads the operator's exclusions from TOML: no path, or a path where nothing
  is, means no exclusions; a file that cannot be read as text is a file system fault; text that is
  not valid exclusions is a configuration fault naming the file.
-/

namespace HostAgent.Collection

open HostAgent.Host HostAgent.Config

/-- The text of a reading error of a JSON document. -/
def readErrorText : Json.ReadError → String
  | .unexpectedEnd => "EOF while parsing a value"
  | .unexpected c => "unexpected character " ++ String.singleton c
  | .invalidNumber => "invalid number"
  | .numberOutOfRange => "number out of range"
  | .invalidEscape => "invalid escape"
  | .controlCharacter => "control character while parsing a string"
  | .loneSurrogate => "lone leading surrogate in hex escape"
  | .depthExceeded => "recursion limit exceeded"
  | .trailing => "trailing characters"
  | .exhausted => "document too long"

/-- Collection rules from a local JSON file. -/
def loadRules (path : Option String) : Agent (Option CollectionRules) := do
  let some path := path | return none
  let text ← tryCatch (readText path) fun
    | .io e => throw (.config ("Failed to read rules " ++ path ++ ": " ++ e.message))
    | e => throw e
  match Json.Value.read text with
  | .ok doc =>
    Agent.debug ("Loaded rules from " ++ path)
    pure (some (CollectionRules.ofDocument doc))
  | .error e => throw (.serialization (readErrorText e))

/-- Exclusions from TOML text. -/
def RemovalConfig.ofToml (text : String) : Except String RemovalConfig :=
  match Toml.Value.ofToml text with
  | .ok doc => RemovalConfig.ofJson? doc.toJson
  | .error e => .error e.message

/-- The operator's exclusions from a local TOML file; none when there is no file. -/
def loadRemovalConfig (path : Option String) : Agent RemovalConfig := do
  let some path := path | return {}
  if !(← Agent.query fun t cwd => t.exists? cwd path) then
    Agent.debug ("No removal config at " ++ path)
    return {}
  let text ← readText path
  match RemovalConfig.ofToml text with
  | .ok r => pure r
  | .error e => throw (.config ("Failed to parse removal config " ++ path ++ ": " ++ e))

end HostAgent.Collection
