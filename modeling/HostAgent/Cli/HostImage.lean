import HostAgent.Cli.Session

/-!
# `HostAgent.Cli.HostImage` — running on a real host

A run sees its host through a world. To run on a real host, the entry point reads the files a run
may touch into an image, runs the program on the world the image describes, and carries out on
the host what the run changed:

* `configPaths` — the settings file the command line names, nothing when it only prints;
* `footprint` — every file a run with those settings may read or change: the settings file, the
  host name files, the log and its rolled-over copies, the state records and markers, the
  schedule entry, the rule and exclusion files, the archive and its manifest, the collector's
  program and its path arguments, and the shell and the utilities it may start;
* `HostImage.world` — the world of an image: its files (a program, which starts with a binary
  header or an interpreter line, may be executed), working directory, environment, clock and
  random seed; the network cannot be reached;
* `changes` — what turns the files of one tree into those of another: directories to make,
  files to write and entries to remove, parents before children and children before parents.
-/

namespace HostAgent.Cli

open HostAgent.Host HostAgent.Config HostAgent.Store HostAgent.Shell

/-- What a run is given of its host. -/
structure HostImage where
  /-- Absolute paths and the bytes of the files there. -/
  files : List (String × ByteArray)
  /-- The absolute working directory. -/
  cwd : String
  env : List (String × String)
  clock : Time.Instant
  seed : UInt64

/-- The environment variables a run may read. -/
def environment : List String := [Remote.usernameVar, Remote.passwordVar, "HOSTNAME"]

/-- The mode a file of an image gets: programs may be executed. -/
def imageMode (data : ByteArray) : Nat :=
  let head := data.toList.take 4
  if head == binaryMagic || head.take 2 == [35, 33] then 0o755 else 0o644

/-- The tree of some files, with the directories above them. -/
def imageTree (files : List (String × ByteArray)) : FileTree :=
  files.foldl (fun t (path, data) =>
    let t := match Path.parent? path with
      | some dir => (t.mkdirAll [] dir 0o755).toOption.getD t
      | none => t
    (t.writeFile [] path data (imageMode data)).toOption.getD t) {}

/-- The world of an image. -/
def HostImage.world (h : HostImage) : World :=
  { files := imageTree h.files, cwd := Path.pieces h.cwd, env := h.env, clock := h.clock,
    entropy := h.seed }

/-- The settings file a command line names, as an absolute path. -/
def configPaths (cwd : String) (words : List String) : List String :=
  match CommandLine.read words with
  | .run i => [Path.join cwd i.config]
  | _ => []

/-- Where a program name may be found: a path as it stands, a bare name in every directory of
the search path. -/
def programPaths (name : String) : List String :=
  if name.toList.contains '/' then [name] else searchPath.map (· ++ "/" ++ name)

/-- Every file a run may read or change, as absolute paths, given the settings files read. -/
def footprint (cwd : String) (words : List String) (read : List (String × ByteArray)) :
    List String :=
  match CommandLine.read words with
  | .run i =>
    let w : World := { files := imageTree read, cwd := Path.pieces cwd }
    let c := i.apply (match Agent.run (loadOrDefault i.config) w with
      | (.ok c, _) => c
      | (.error _, _) => {})
    let store : StateStore := ⟨c.stateDir⟩
    let state := [Marker.registered, .unregistered, .lastUpload].map store.markerPath ++
      [Record.machineId, .lastUploadResults].map store.recordPath
    let log := c.loggingFile ::
      (List.range LogFile.backups).map fun n => LogFile.backupPath c.loggingFile (n + 1)
    let cache := [Collection.archiveName, Collection.manifestName].map (Path.join c.cacheDir)
    let collector := match Text.words c.collectorCommand with
      | [] => []
      | program :: args => programPaths program ++ args.filter (·.toList.contains '/')
    let programs := hostPrograms.flatMap programPaths
    let paths := [i.config, "/proc/sys/kernel/hostname", "/etc/hostname", c.scheduleFile] ++
      c.rulesFile.toList ++ c.removalFile.toList ++ log ++ state ++ cache ++ collector ++ programs
    (paths.map (Path.join cwd)).eraseDups
  | _ => []

/-- One change to carry out on the host. -/
inductive Change where
  | makeDir (path : String) (mode : Nat)
  | write (path : String) (data : ByteArray) (mode : Nat)
  | remove (path : String)
  | removeDir (path : String)

/-- The absolute path of a location. -/
def pathOf (loc : Location) : String := "/" ++ "/".intercalate loc

/-- What turns the files of `before` into those of `after`: new directories, parents first; new
or changed files; then entries gone, children first. Links are left alone. -/
def changes (before after : FileTree) : List Change :=
  let byDepth (xs : List (Location × Node)) : List (Location × Node) :=
    xs.mergeSort fun a b => decide (a.1.length ≤ b.1.length)
  let made := (byDepth after.entries).filterMap fun (l, n) =>
    match n, before.lookup l with
    | .dir mode, none => some (Change.makeDir (pathOf l) mode)
    | _, _ => none
  let written := after.entries.filterMap fun (l, n) =>
    match n, before.lookup l with
    | .file data mode, some (.file old m) =>
      if old == data && m == mode then none else some (Change.write (pathOf l) data mode)
    | .file data mode, _ => some (Change.write (pathOf l) data mode)
    | _, _ => none
  let gone := (byDepth before.entries).reverse.filterMap fun (l, n) =>
    match n, after.lookup l with
    | .dir _, none => some (Change.removeDir (pathOf l))
    | _, none => some (Change.remove (pathOf l))
    | _, _ => none
  made ++ written ++ gone

/-- Run the program on an image: how it ended and what it changed. -/
def execute (words : List String) (h : HostImage) : Outcome × List Change :=
  let w := h.world
  let (out, w') := (Program.run words).run w
  (out, changes w.files w'.files)

end HostAgent.Cli
