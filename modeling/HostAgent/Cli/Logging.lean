import HostAgent.Host.World

/-!
# `HostAgent.Cli.Logging` — the console and the log file

The program shows the journal's events in two places:

* the **console** (standard output), filtered by the verbosity options — `--silent` shows
  nothing and wins over the others, `--verbose` shows debug events and up, `--quiet` only errors,
  and otherwise info events and up. A plain line is `[spans: ]message`; with `--verbose` it
  starts with the event's time and its level, right-aligned in five columns;
* the **log file**, which gets every event from debug up as
  `TIME LEVEL [spans: ]hostwatch: message`, appended to what the file already holds.

Before a run the log file may be rolled over (`rotate`): `log.3` is removed, `log.2` and `log.1`
move up one where they exist, and the log becomes `log.1`; a missing log leaves everything as it
is. The log's directory is made private (mode 700) when it is missing (`prepareDir`), and the
log itself is opened for appending (`openForAppend`), created with mode 644 when missing.
-/

namespace HostAgent.Cli

open HostAgent.Host HostAgent.Time

/-- What the console shows. -/
structure Console where
  /-- The least important level shown; `none` shows nothing. -/
  floor : Option Level
  /-- Whether each line starts with the event's time and level. -/
  verbose : Bool
  deriving DecidableEq, Repr

namespace Console

/-- The console the verbosity options ask for: `silent` wins, then `verbose`, then `quiet`. -/
def ofOptions (silent verbose quiet : Bool) : Console :=
  { floor := if silent then none else if verbose then some .debug
      else if quiet then some .error else some .info,
    verbose }

end Console

/-- A level's name right-aligned in five columns. -/
def paddedLabel (l : Level) : String :=
  let s := l.label
  String.ofList (List.replicate (5 - s.length) ' ') ++ s

/-- The time of a log line: UTC with microseconds and a final `Z`. -/
def logStamp (t : Instant) : String :=
  let days := t.seconds.fdiv 86400
  let secs := (t.seconds - days * 86400).toNat
  let date := civilOfDays days
  yearText date.year ++ "-" ++ twoDigits date.month ++ "-" ++ twoDigits date.day ++ "T" ++
    twoDigits (secs / 3600) ++ ":" ++ twoDigits (secs / 60 % 60) ++ ":" ++ twoDigits (secs % 60) ++
    "." ++ padded 6 (t.nanos % 1000000000 / 1000) ++ "Z"

namespace Console

/-- The console line of an event, when the console shows it. -/
def line (c : Console) (e : Event) : Option String :=
  match c.floor with
  | none => none
  | some floor =>
    if !e.level.atLeast floor then none
    else if c.verbose then
      some (logStamp e.time ++ " " ++ paddedLabel e.level ++ " " ++ e.spanPrefix ++ e.message)
    else some (e.spanPrefix ++ e.message)

/-- What the console prints for some events. -/
def render (c : Console) (events : List Event) : String :=
  String.join (events.filterMap fun e => (c.line e).map (· ++ "\n"))

end Console

/-- The name the agent's events are logged under in the log file. -/
def logTarget : String := "hostwatch"

/-- The log file's line of an event. -/
def fileLine (e : Event) : String :=
  logStamp e.time ++ " " ++ paddedLabel e.level ++ " " ++ e.spanPrefix ++ logTarget ++ ": " ++
    e.message ++ "\n"

/-- What the log file gets of some events: every event from debug up. -/
def fileText (events : List Event) : String :=
  String.join ((events.filter fun e => e.level.atLeast .debug).map fileLine)

/-- Changes of the files made one after another: the first failure stops them, and what was
changed before it stays changed. -/
abbrev FileChanges := ExceptT IoError (StateM FileTree)

/-- Run changes on a tree: how they ended, and the tree they leave. -/
def FileChanges.run (act : FileChanges α) (t : FileTree) : Except IoError α × FileTree :=
  (ExceptT.run act).run t

/-- One change of the files. -/
def FileChanges.step (f : FileTree → Except IoError FileTree) : FileChanges Unit := do
  match f (← get) with
  | .ok t => set t
  | .error e => throw e

namespace LogFile

/-- How many rolled-over copies are kept. -/
def backups : Nat := 3

/-- The path of the `n`-th rolled-over copy. -/
def backupPath (log : String) (n : Nat) : String := log ++ "." ++ toString n

/-- Roll the log over: drop the oldest copy, move the others up one, and make the log the
newest copy. Nothing happens when there is no log, and a failure stops the roll-over where it
is. -/
def rotate (log : String) (cwd : Location) : FileChanges Unit := do
  if !(← get).exists? cwd log then return
  match (← get).removeFile cwd (backupPath log backups) with
  | .ok t => set t
  | .error .notFound => pure ()
  | .error e => throw e
  ((List.range (backups - 1)).reverse.map (· + 1)).forM fun n => do
    if (← get).exists? cwd (backupPath log n) then
      FileChanges.step (·.rename cwd (backupPath log n) (backupPath log (n + 1)))
  FileChanges.step (·.rename cwd log (backupPath log 1))

/-- Make the log's directory, with mode 700, when it is missing. -/
def prepareDir (log : String) (t : FileTree) (cwd : Location) : Except IoError FileTree :=
  match Path.parent? log with
  | none => pure t
  | some dir =>
    if dir.isEmpty || t.exists? cwd dir then pure t else t.mkdirAll cwd dir 0o700

/-- Open a file for appending: it must be a file or missing, and a missing file is created
empty with mode 644; when that fails, its directory is made first. -/
def openForAppend (path : String) (t : FileTree) (cwd : Location) : Except IoError FileTree :=
  let attempt (t : FileTree) : Except IoError FileTree :=
    match t.stat cwd path with
    | .ok (.file _ _) => pure t
    | .ok _ => throw .isADirectory
    | .error .notFound => t.writeFile cwd path ByteArray.empty 0o644
    | .error e => throw e
  match attempt t with
  | .ok t => pure t
  | .error e =>
    match Path.parent? path with
    | some dir => do
      let t ← t.mkdirAll cwd dir 0o755
      attempt t
    | none => throw e

/-- Append text to a file that is there; a file that is gone gets nothing. -/
def append (path : String) (text : String) (t : FileTree) (cwd : Location) : FileTree :=
  match t.readFile cwd path with
  | .ok old => (t.writeFile cwd path (old ++ text.toUTF8) 0o644).toOption.getD t
  | .error _ => t

end LogFile

end HostAgent.Cli
