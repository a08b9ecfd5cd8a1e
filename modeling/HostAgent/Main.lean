import HostAgent.Cli.HostImage
import Std.Time.Format

/-!
# `HostAgent.Main` — the program's entry point

Reads the files a run may touch (`HostAgent.Cli.footprint`), runs the program on them
(`HostAgent.Cli.execute`), carries out the changes on the host, prints what the run printed and
exits with its status. It decides nothing of its own.
-/

open HostAgent HostAgent.Cli

/-- Read files; one that cannot be read is left out. -/
def readFiles (paths : List String) : IO (List (String × ByteArray)) :=
  paths.filterMapM fun (path : String) => do
    try pure (some (path, ← IO.FS.readBinFile path)) catch _ => pure none

/-- Permission bits as the host's file rights. -/
def rightsOf (mode : Nat) : IO.FileRight :=
  let bits (n : Nat) : IO.AccessRight :=
    { read := n / 4 % 2 == 1, write := n / 2 % 2 == 1, execution := n % 2 == 1 }
  { user := bits (mode / 64 % 8), group := bits (mode / 8 % 8), other := bits (mode % 8) }

/-- Carry out one change; one that fails is skipped. -/
def applyChange (c : Change) : IO Unit := do
  try
    match c with
    | .makeDir path mode =>
      IO.FS.createDir path
      IO.setAccessRights path (rightsOf mode)
    | .write path data mode =>
      IO.FS.writeBinFile path data
      IO.setAccessRights path (rightsOf mode)
    | .remove path => IO.FS.removeFile path
    | .removeDir path => IO.FS.removeDirAll path
  catch _ => pure ()

/-- The seed of the random source from eight random bytes. -/
def seedOf (bytes : ByteArray) : UInt64 :=
  bytes.toList.foldl (fun acc b => acc * 256 + b.toUInt64) 0

def main (args : List String) : IO UInt32 := do
  let cwd := (← IO.currentDir).toString
  let settings ← readFiles (configPaths cwd args)
  let files ← readFiles (footprint cwd args settings)
  let env ← environment.filterMapM fun name => do
    pure ((← IO.getEnv name).map fun value => (name, value))
  let nanos := (← Std.Time.Timestamp.now).toNanosecondsSinceUnixEpoch.val
  let clock : Time.Instant := ⟨nanos.fdiv 1000000000, (nanos.fmod 1000000000).toNat⟩
  let seed := seedOf (← IO.getRandomBytes 8)
  let (outcome, todo) := execute args { files, cwd, env, clock, seed }
  todo.forM applyChange
  let out ← IO.getStdout
  out.putStr outcome.stdout
  out.flush
  let err ← IO.getStderr
  err.putStr outcome.stderr
  err.flush
  pure outcome.status.toUInt32
