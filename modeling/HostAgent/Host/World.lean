import HostAgent.Fault
import HostAgent.Host.FileTree
import HostAgent.Host.Journal
import HostAgent.Time.Instant
import HostAgent.Time.Duration
import HostAgent.Remote.Script
import HostAgent.Http.Message
import HostAgent.Collection.Request

/-!
# `HostAgent.Host.World` — the world the agent runs in, and the `Agent` monad

A world is the host (its files, working directory, environment, clock, a source of random
numbers and the storage's answers to writes through an open file), the journal of log events
with the spans now open, and the parties the agent meets: a scripted remote service, the
network, and the records that sleeping, collecting and scheduling leave.

`Agent α` is a computation that changes the world and ends with a value or a `Fault`. A fault
keeps the changes made before it: the world after a failed call is the world the next call sees.

## Contents
- the journal: `Agent.log` and its level shorthands, `Agent.inSpan`;
- files: `Agent.files`, `Agent.attempt`, `Agent.orIo`, and the calls through an open file,
  `Agent.writeOpened` and `Agent.syncOpened`, which the storage may fail;
- environment, clock and randomness: `Agent.env?`, `Agent.now`, `Agent.random64`.
-/

namespace HostAgent

open HostAgent.Host HostAgent.Time HostAgent.Remote HostAgent.Http HostAgent.Collection

/-- What the storage answers to the calls made through an open file: a write of some bytes, and
a flush of what was written to the device. `none` is success, which is what a healthy device
always answers. -/
structure Storage where
  /-- The failure a write of these bytes to the file at a location meets. -/
  write : Location → ByteArray → Option IoError := fun _ _ => none
  /-- The failure a flush of the file at a location meets. -/
  sync : Location → Option IoError := fun _ => none

/-- Everything the agent can observe or change. -/
structure World where
  /-- The host's files. -/
  files : FileTree := {}
  /-- The working directory. -/
  cwd : Location := []
  /-- Environment variables. -/
  env : List (String × String) := []
  /-- The current time. -/
  clock : Instant := ⟨1717243200, 0⟩
  /-- The state of the random number source. -/
  entropy : UInt64 := 0x2545F4914F6CDD1D
  /-- Log events, oldest first. -/
  journal : Array Event := #[]
  /-- The spans now open, outermost first. -/
  spans : List String := []
  /-- The scripted remote service. -/
  service : ScriptedService := {}
  /-- The network that HTTP requests go to. -/
  network : Network := .unreachable
  /-- Waits asked of a sleeper that only records them. -/
  sleeps : Array Duration := #[]
  /-- Calls made to a collector that records them. -/
  collectorCalls : Array CollectorCall := #[]
  /-- Calls made to a scheduler whose entry cannot be removed. -/
  scheduleAttempts : Nat := 0
  /-- How the storage answers writes and flushes through an open file. -/
  storage : Storage := {}

instance : Inhabited World := ⟨{}⟩

/-- A computation of the agent. -/
abbrev Agent := ExceptT Fault (StateM World)

namespace Agent

/-- Run a computation in a world. -/
def run (act : Agent α) (w : World) : Except Fault α × World := (ExceptT.run act).run w

/-- Run a computation and keep its fault as a value; the world keeps its changes either way. -/
def capture (act : Agent α) : Agent (Except Fault α) :=
  tryCatch (do pure (.ok (← act))) fun e => pure (.error e)

/-- Add an event to the journal, inside the spans now open. -/
def log (level : Level) (message : String) : Agent Unit :=
  modify fun w => { w with journal := w.journal.push { level, message, spans := w.spans, time := w.clock } }

/-- A debug event. -/
def debug (message : String) : Agent Unit := log .debug message
/-- An info event. -/
def info (message : String) : Agent Unit := log .info message
/-- A warning. -/
def warn (message : String) : Agent Unit := log .warn message
/-- An error event. -/
def error (message : String) : Agent Unit := log .error message

/-- Run a computation inside a span; the span closes however the computation ends. -/
def inSpan (label : String) (act : Agent α) : Agent α := do
  let outer := (← get).spans
  modify fun w => { w with spans := outer ++ [label] }
  let r ← tryCatch act fun e => do
    modify fun w => { w with spans := outer }
    throw e
  modify fun w => { w with spans := outer }
  pure r

/-- Read the files. -/
def files : Agent FileTree := do pure (← get).files

/-- The working directory. -/
def cwd : Agent Location := do pure (← get).cwd

/-- Ask the file tree something from the working directory. -/
def query (f : FileTree → Location → α) : Agent α := do
  let w ← get
  pure (f w.files w.cwd)

/-- Try a change of the file tree; on success the world holds the changed tree. -/
def attempt (f : FileTree → Location → Except IoError FileTree) : Agent (Except IoError Unit) := do
  let w ← get
  match f w.files w.cwd with
  | .ok t =>
    set { w with files := t }
    pure (.ok ())
  | .error e => pure (.error e)

/-- A file system result, its error raised as a fault. -/
def orIo (r : Except IoError α) : Agent α :=
  match r with
  | .ok a => pure a
  | .error e => throw (.io e)

/-- Change the file tree, raising a failure as a fault. -/
def change (f : FileTree → Location → Except IoError FileTree) : Agent Unit := do
  orIo (← attempt f)

/-- Write bytes through the file opened at `path`, which is a regular file: the storage may
refuse them, and an empty buffer makes no call at all. The file keeps its mode. -/
def writeOpened (path : String) (data : ByteArray) : Agent (Except IoError Unit) := do
  if data.isEmpty then return .ok ()
  let w ← get
  match (w.files.resolve w.cwd path true).toOption.bind (w.storage.write · data) with
  | some e => pure (.error e)
  | none => attempt fun t cwd => t.writeFile cwd path data 0o600

/-- Flush the file opened at `path` to its device; the storage may fail it, and nothing the
agent can see changes either way. -/
def syncOpened (path : String) : Agent (Except IoError Unit) := do
  let w ← get
  match (w.files.resolve w.cwd path true).toOption.bind w.storage.sync with
  | some e => pure (.error e)
  | none => pure (.ok ())

/-- The value of an environment variable. -/
def env? (name : String) : Agent (Option String) := do
  pure (((← get).env.find? (·.1 == name)).map (·.2))

/-- The current time. -/
def now : Agent Instant := do pure (← get).clock

/-- Let time pass. -/
def advance (d : Duration) : Agent Unit :=
  modify fun w =>
    let n := w.clock.nanos + d.nanos
    { w with clock := ⟨w.clock.seconds + d.secs + n / 1000000000, n % 1000000000⟩ }

/-- One step of the SplitMix64 generator: the next state and its output. -/
def splitMix (s : UInt64) : UInt64 × UInt64 :=
  let s := s + 0x9E3779B97F4A7C15
  let z := (s ^^^ (s >>> 30)) * 0xBF58476D1CE4E5B9
  let z := (z ^^^ (z >>> 27)) * 0x94D049BB133111EB
  (s, z ^^^ (z >>> 31))

/-- Sixty-four random bits. -/
def random64 : Agent UInt64 := do
  let w ← get
  let (s, out) := splitMix w.entropy
  set { w with entropy := s }
  pure out

/-- The eight bytes of a word, most significant first. -/
def bytesOfWord (x : UInt64) : List UInt8 :=
  (List.range 8).map fun i => (x >>> (8 * (7 - i).toUInt64)).toUInt8

/-- Sixteen random bytes. -/
def random128 : Agent (List UInt8) := do
  let a ← random64
  let b ← random64
  pure (bytesOfWord a ++ bytesOfWord b)

end Agent

end HostAgent
