import HostAgent.Host.World
import HostAgent.Time.Rfc3339
import HostAgent.Text.Blank
import HostAgent.Text.Quoted

/-!
# `HostAgent.Store.Basic` — the agent's local state

The state directory holds markers (files whose presence is the fact: `.registered`,
`.unregistered`, `.lastupload`, each holding the time it was written) and records (files with a
payload: `machine-id`, `last_upload_results`).

* Every write is atomic: the state directory is made, a new empty temporary file `.tmpXXXXXX`
  (mode 600) is created in it under a random name (a taken name is drawn again), the bytes are
  written to it and flushed, its mode is set, and it is renamed over the target. When any step on
  the temporary file fails, the file is removed; a failed rename is a state fault naming the
  target, and the errors of creating and writing the file name its path.
* The registration markers exclude each other: writing one first deletes the other. The two are
  then never present together through the agent's own writes, as long as the state directory's
  path does not go back up with `..` from a directory that may be missing: with `s/n/..` and `n`
  missing, deleting the other marker finds nothing there, the write makes `n`, and the new
  marker lands beside the one that was never deleted.
* Deleting a marker or a record that is not there succeeds.
* The registration state is read off the markers: one of them, or neither; both (written by
  someone else) count as unknown, with a warning.

## Contents
- `Marker`, `Record` and their file names.
- `StateStore.createTemp`, `onTemp` and `writeAtomic`, `writeMarker`, `deleteMarker`, `hasMarker`, `writeRecord`,
  `readRecord`, `deleteRecord`, `registrationState`, `lastUpload`.
-/

namespace HostAgent.Store

open HostAgent.Host HostAgent.Time

/-- A file whose presence is the fact. -/
inductive Marker where
  | registered
  | unregistered
  /-- The time of the last confirmed upload. -/
  | lastUpload
  deriving Repr, DecidableEq, Inhabited

/-- The file name of a marker. -/
def Marker.fileName : Marker → String
  | .registered => ".registered"
  | .unregistered => ".unregistered"
  | .lastUpload => ".lastupload"

/-- The marker that must be absent while this one is present. -/
def Marker.exclusiveWith : Marker → Option Marker
  | .registered => some .unregistered
  | .unregistered => some .registered
  | .lastUpload => none

/-- A file with a payload. -/
inductive Record where
  /-- The host's identifier. -/
  | machineId
  /-- The body of the last successful upload response. -/
  | lastUploadResults
  deriving Repr, DecidableEq, Inhabited

/-- The file name of a record. -/
def Record.fileName : Record → String
  | .machineId => "machine-id"
  | .lastUploadResults => "last_upload_results"

/-- Whether the host is registered, as the markers tell it. -/
inductive RegistrationState where
  | registered
  | unregistered
  | unknown
  deriving Repr, DecidableEq, Inhabited

/-- The lower-case name of a state. -/
def RegistrationState.name : RegistrationState → String
  | .registered => "registered"
  | .unregistered => "unregistered"
  | .unknown => "unknown"

/-- A state directory. -/
structure StateStore where
  dir : String
  deriving Repr, DecidableEq, Inhabited

namespace StateStore

/-- Where a marker lives. -/
def markerPath (s : StateStore) (m : Marker) : String := Path.join s.dir m.fileName

/-- Where a record lives. -/
def recordPath (s : StateStore) (r : Record) : String := Path.join s.dir r.fileName

/-- Characters of temporary file names. -/
def nameAlphabet : List Char :=
  "abcdefghijklmnopqrstuvwxyzABCDEFGHIJKLMNOPQRSTUVWXYZ0123456789".toList

/-- A fresh temporary file name `.tmp` and six random letters or digits. -/
def tempName : Agent String := do
  let x ← Agent.random64
  let picks := (List.range 6).map fun i => nameAlphabet.getD ((x >>> (8 * i).toUInt64).toNat % 62) 'x'
  pure (".tmp" ++ String.ofList picks)

/-- How many names creating the temporary file draws before it gives up. -/
def tempTries : Nat := 2147483648

/-- An error met through a file handle, which names the file: its text, then `at path` and the
path in its debugging form. -/
def atPath (e : IoError) (path : String) : IoError :=
  .other (e.message ++ " at path " ++ Text.debugQuote path)

/-- A path as a file handle keeps it: made absolute from the working directory. -/
def handlePath (cwd : Location) (path : String) : String :=
  Path.join (Path.ofComponents (.root :: cwd.map .name)) path

/-- Create the temporary file, empty and of mode 600, under a fresh name in the state directory;
a name that is taken is drawn again, `tries` times at most. The path of the file created. -/
def createTemp (s : StateStore) : Nat → Agent String
  | 0 => throw (.io (atPath (.other "too many temporary files exist") s.dir))
  | tries + 1 => do
    let tmp := Path.join s.dir (← tempName)
    match ← Agent.attempt fun t cwd => t.createNew cwd tmp .empty 0o600 with
    | .ok () => pure tmp
    | .error .alreadyExists => s.createTemp tries
    | .error e => throw (.io (atPath e (handlePath (← Agent.cwd) tmp)))

/-- A step on the temporary file `tmp`: when it fails, the file is removed, whatever the removal
gives, and the step's error is reported. -/
def onTemp (tmp : String) (step : Agent (Except IoError Unit)) (report : IoError → Fault) :
    Agent Unit := do
  match ← step with
  | .ok () => pure ()
  | .error e =>
    let _ ← Agent.attempt fun t cwd => t.removeFile cwd tmp
    throw (report e)

/-- Replace the file at `path` with `bytes` through a temporary file in the state directory. -/
def writeAtomic (s : StateStore) (path : String) (bytes : ByteArray) : Agent Unit := do
  Agent.change fun t cwd => t.mkdirAll cwd s.dir 0o755
  let tmp ← s.createTemp tempTries
  let shown := handlePath (← Agent.cwd) tmp
  onTemp tmp (Agent.writeOpened tmp bytes) fun e => .io (atPath e shown)
  onTemp tmp (Agent.syncOpened tmp) .io
  onTemp tmp (Agent.attempt fun t cwd => t.chmod cwd tmp 0o600) .io
  onTemp tmp (Agent.attempt fun t cwd => t.rename cwd tmp path) fun e =>
    .state ("Failed to finalize " ++ path ++ ": " ++ e.message)

/-- Remove a file; one that is not there counts as removed. -/
def removeIfExists (path : String) : Agent Unit := do
  match ← Agent.attempt fun t cwd => t.removeFile cwd path with
  | .ok () => pure ()
  | .error .notFound => pure ()
  | .error e => throw (.io e)

/-- Remove a marker. -/
def deleteMarker (s : StateStore) (m : Marker) : Agent Unit := removeIfExists (s.markerPath m)

/-- Write a marker holding the current time, after removing the marker it excludes. -/
def writeMarker (s : StateStore) (m : Marker) : Agent Unit := do
  if let some other := m.exclusiveWith then s.deleteMarker other
  let stamp := (← Agent.now).rfc3339
  s.writeAtomic (s.markerPath m) stamp.toUTF8
  Agent.debug ("Wrote marker " ++ m.fileName)

/-- Whether a marker is present as a regular file. -/
def hasMarker (s : StateStore) (m : Marker) : Agent Bool :=
  Agent.query fun t cwd => t.isFile cwd (s.markerPath m)

/-- Write a record. -/
def writeRecord (s : StateStore) (r : Record) (bytes : ByteArray) : Agent Unit := do
  s.writeAtomic (s.recordPath r) bytes
  Agent.debug ("Wrote record " ++ r.fileName ++ " (" ++ toString bytes.size ++ " bytes)")

/-- The bytes of a record, `none` when it is not there. -/
def readRecord (s : StateStore) (r : Record) : Agent (Option ByteArray) := do
  match ← Agent.query fun t cwd => t.readFile cwd (s.recordPath r) with
  | .ok bytes => pure (some bytes)
  | .error .notFound => pure none
  | .error e => throw (.io e)

/-- Remove a record. -/
def deleteRecord (s : StateStore) (r : Record) : Agent Unit := removeIfExists (s.recordPath r)

/-- Mark the host registered. -/
def markRegistered (s : StateStore) : Agent Unit := s.writeMarker .registered

/-- Mark the host unregistered. -/
def markUnregistered (s : StateStore) : Agent Unit := s.writeMarker .unregistered

/-- Drop both registration markers. -/
def clearRegistration (s : StateStore) : Agent Unit := do
  s.deleteMarker .registered
  s.deleteMarker .unregistered

/-- The state that the registration markers give. -/
def stateOf (registered unregistered : Bool) : RegistrationState :=
  match registered, unregistered with
  | true, false => .registered
  | false, true => .unregistered
  | _, _ => .unknown

/-- The registration state read off the markers; both present is unknown, with a warning. -/
def registrationState (s : StateStore) : Agent RegistrationState := do
  let r ← s.hasMarker .registered
  let u ← s.hasMarker .unregistered
  if r && u then
    Agent.warn ("Both registration markers present in " ++ s.dir ++
      ", treating state as unknown")
  pure (stateOf r u)

/-- The time of the last confirmed upload, `none` when none was recorded. -/
def lastUpload (s : StateStore) : Agent (Option Instant) := do
  let path := s.markerPath .lastUpload
  let bytes ← match ← Agent.query fun t cwd => t.readFile cwd path with
    | .ok bytes => pure bytes
    | .error .notFound => return none
    | .error e => throw (.io e)
  let some text := String.fromUTF8? bytes | throw (.io .invalidUtf8)
  match Instant.ofRfc3339 (Text.trim text) with
  | .ok t => pure (some t)
  | .error e => throw (.state ("Invalid timestamp in " ++ path ++ ": " ++ e.message))

end StateStore

end HostAgent.Store
