import HostAgent.Host.World
import HostAgent.Archive
import HostAgent.Json.Writer
import HostAgent.Shell.Program
import HostAgent.Text.Blank

/-!
# `HostAgent.Collection.Runner` — collectors

A collector produces the archive of one run and then finishes the run. Two kinds exist:

* a **canned** collector answers from fixed settings and keeps a record of its calls in the
  world (`World.collectorCalls`): its run gives fixed bytes or fails with a given message, and
  so does its finish;
* a **command** collector starts a program with its arguments, `--output` and the archive's path,
  in its work directory, the request written to the program's input as compact JSON. The program
  must succeed and leave the archive at that path. Finishing checks the archive is there and
  writes the manifest `collection.json` next to it: the rules' version, the exclusion report
  and the archive's path, indented JSON.

The faults, in the order they are checked: the work directory cannot be made (a file system
fault); the program cannot start, exits unsuccessfully, or leaves no readable archive (each a
collection fault naming what went wrong); and on finishing, no archive (a collection fault) or a
manifest that cannot be written (a file system fault).
-/

namespace HostAgent.Collection

open HostAgent.Host HostAgent.Json HostAgent.Time HostAgent.Shell

/-- The archive's file name in the work directory. -/
def archiveName : String := "hostwatch-archive.tar.gz"

/-- The manifest's file name in the work directory. -/
def manifestName : String := "collection.json"

/-- The content type of archives a command collector makes. -/
def archiveContentType : String := "application/vnd.hostwatch.advisor+tgz"

/-- How long a command collection takes on the world's clock. -/
def collectionTime : Duration := ⟨0, 40000000⟩

/-- A collector with fixed answers. -/
structure CannedCollector where
  /-- The archive's bytes. -/
  bytes : ByteArray := "tgz".toUTF8
  /-- The archive's content type. -/
  contentType : String := "application/gzip"
  /-- How long the collection says it took. -/
  duration : Option Duration := none
  /-- The message a run fails with, if it fails. -/
  failRun : Option String := none
  /-- The message finishing fails with, if it fails. -/
  failFinalize : Option String := none
  /-- Where finishing says the archive is. -/
  archive : String

/-- A collector that runs a program. -/
structure CommandCollector where
  program : String
  args : List String := []
  workDir : String
  deriving Repr, DecidableEq

/-- A collector. -/
inductive Collector where
  | canned (c : CannedCollector)
  | command (c : CommandCollector)

namespace CommandCollector

/-- A command collector from a command line split at blanks: the first word is the program,
the others its arguments. -/
def fromCommandLine (command workDir : String) : Except Fault CommandCollector :=
  match Text.words command with
  | [] => .error (.config "collector_command must not be empty")
  | program :: args => .ok { program, args, workDir }

/-- Where the archive is left. -/
def archivePath (c : CommandCollector) : String := Path.join c.workDir archiveName

/-- Seconds with one decimal, rounded. -/
def tenths (d : Duration) : String :=
  let t := (d.toNanos + 50000000) / 100000000
  toString (t / 10) ++ "." ++ toString (t % 10)

/-- Run the program and read the archive it leaves. -/
def run (c : CommandCollector) (request : CollectionRequest) : Agent Artifact :=
  Agent.inSpan ("run\x7bprogram=" ++ c.program ++ "\x7d") do
    Agent.change fun t cwd => t.mkdirAll cwd c.workDir 0o755
    let archive := c.archivePath
    let input := (Value.compact request.toJson).toUTF8
    let w ← get
    let workLoc ← Agent.orIo (w.files.resolve w.cwd c.workDir true)
    let finished ← match spawn w.files workLoc w.env c.program (c.args ++ ["--output", archive]) input with
      | .ok f => pure f
      | .error e =>
        throw (.collection ("Failed to start collector " ++ c.program ++ ": " ++ e.message))
    modify fun w => { w with files := finished.files }
    Agent.advance collectionTime
    let elapsed := collectionTime
    if !finished.status.success then
      throw (.collection ("Collector exited with " ++ finished.status.text ++ ": " ++
        Text.trim (Text.decodeLossy finished.stderr)))
    if finished.unread > 0 && input.size > 65536 then
      Agent.debug "Collector exited without reading the whole request"
    Agent.debug ("Collector output: " ++ Text.trim (Text.decodeLossy finished.stdout))
    let bytes ← match (← Agent.query fun t cwd => t.readFile cwd archive) with
      | .ok b => pure b
      | .error e =>
        throw (.collection ("Collector produced no archive at " ++ archive ++ ": " ++ e.message))
    Agent.info ("Collected " ++ toString bytes.size ++ " bytes in " ++ tenths elapsed ++ "s")
    pure { bytes, contentType := archiveContentType, duration := some elapsed }

/-- The manifest of a finished run. -/
def manifest (rules : Option CollectionRules) (removal : RemovalConfig) (archive : String) : Value :=
  let version : Value := match rules with
    | some r => match r.version with
      | some v => .str v
      | none => .null
    | none => .null
  .obj [("rules_version", version), ("blacklist_report", removal.report.toJson),
    ("archive", .str archive)]

/-- Check the archive is there and write the manifest next to it. -/
def finalize (c : CommandCollector) (rules : Option CollectionRules) (removal : RemovalConfig) :
    Agent String := do
  let archive := c.archivePath
  let present ← match (← Agent.query fun t cwd => t.stat cwd archive) with
    | .ok _ => pure true
    | .error .notFound => pure false
    | .error e => throw (.io e)
  if !present then throw (.collection ("No archive to finalize at " ++ archive))
  let text := (manifest rules removal archive).pretty 0
  Agent.change fun t cwd => t.writeFile cwd (Path.join c.workDir manifestName) text.toUTF8 0o644
  pure archive

end CommandCollector

namespace Collector

/-- Collect under the given rules and exclusions. -/
def run (c : Collector) (request : CollectionRequest) : Agent Artifact :=
  match c with
  | .canned k => do
    modify fun w => { w with collectorCalls := w.collectorCalls.push (.run request) }
    match k.failRun with
    | some msg => throw (.collection msg)
    | none => pure { bytes := k.bytes, contentType := k.contentType, duration := k.duration }
  | .command k => k.run request

/-- Finish the run; where the archive was left. -/
def finalize (c : Collector) (rules : Option CollectionRules) (removal : RemovalConfig) :
    Agent String :=
  match c with
  | .canned k => do
    modify fun w => { w with collectorCalls := w.collectorCalls.push (.finalize rules removal) }
    match k.failFinalize with
    | some msg => throw (.collection msg)
    | none => pure k.archive
  | .command k => k.finalize rules removal

end Collector

end HostAgent.Collection
