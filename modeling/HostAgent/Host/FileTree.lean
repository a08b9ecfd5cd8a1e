import HostAgent.Host.IoError
import HostAgent.Host.Path

/-!
# `HostAgent.Host.FileTree` — the host's files

A file tree binds absolute locations (lists of names from the root) to nodes: a file with its
bytes and mode, a directory with its mode, a symbolic link with its target text, or a
character device. The root is
always a directory and is not stored. `lookup` is the one view of a tree; every operation below
says what it does through it.

Paths are resolved the way the host's kernel does it:

* a relative path starts at the working directory, an absolute one at the root;
* `.` stays, `..` goes to the parent of the directory reached so far (the root is its own
  parent);
* a link met before the last component is replaced by its target, read from the link's
  directory, and so is a last component when the call follows links; at most `maxLinks` links are
  followed for one path;
* a component that is needed as a directory and is missing gives `notFound`, and one that is a
  file gives `notADirectory`;
* a trailing slash asks for a directory, as if `.` followed it.

A directory lists its entries in the order the tree keeps them. That order is the file
system's and is not specified: a tree may start in any order, and what is proved about listing
a directory holds for every one. Only where a new entry goes is chosen here: a location that is
made is listed before those that were there.

## Contents
- `resolve`, `lookup`, `stat`, `lstat` — where a path leads and what is there.
- `readFile`, `writeFile`, `createNew`, `mkdir`, `mkdirAll`, `removeFile`, `removeDirAll`,
  `rename`, `readDir`, `chmod`, `symlink` — the calls the agent makes, each with the system's
  error for each failure.
-/

namespace HostAgent.Host

/-- The character devices of `/dev`: what reading and writing them does is up to the process
that opens them. -/
inductive Device where
  /-- Reading gives nothing, writing is dropped. -/
  | null
  /-- Reading gives zero bytes, writing is dropped. -/
  | zero
  /-- Reading gives zero bytes, writing fails: the device is full. -/
  | full
  /-- Reading gives random bytes, writing is dropped. -/
  | random
  /-- The same as `random`, never blocking. -/
  | urandom
  /-- The controlling terminal, which the agent's processes do not have. -/
  | tty
  deriving DecidableEq, Repr, Inhabited

namespace Device

/-- The device's major and minor numbers. -/
def numbers : Device → Nat × Nat
  | .null => (1, 3)
  | .zero => (1, 5)
  | .full => (1, 7)
  | .random => (1, 8)
  | .urandom => (1, 9)
  | .tty => (5, 0)

/-- The device's name under `/dev`. -/
def name : Device → String
  | .null => "null"
  | .zero => "zero"
  | .full => "full"
  | .random => "random"
  | .urandom => "urandom"
  | .tty => "tty"

/-- How many bytes one read of an endless device gives. -/
def chunk : Nat := 65536

/-- Bytes that look random: the high bits of a linear congruential sequence. -/
def noise (n : Nat) : ByteArray :=
  let step (acc : List UInt8 × Nat) (_ : Nat) : List UInt8 × Nat :=
    let x := (acc.2 * 1103515245 + 12345) % 2147483648
    (UInt8.ofNat (x / 65536 % 256) :: acc.1, x)
  ByteArray.mk ((List.range n).foldl step ([], 1)).1.reverse.toArray

/-- What reading the device gives: nothing, a chunk of zeros or of noise, or an error. -/
def contents : Device → Except IoError ByteArray
  | .null => .ok .empty
  | .zero | .full => .ok (ByteArray.mk (List.replicate chunk 0).toArray)
  | .random | .urandom => .ok (noise chunk)
  | .tty => .error .noDevice

/-- What writing to the device does: nothing, or an error. -/
def accepts : Device → Except IoError Unit
  | .full => .error .noSpace
  | .tty => .error .noDevice
  | _ => .ok ()

end Device

/-- What a location of the tree holds. -/
inductive Node where
  /-- A regular file: its bytes and permission bits. -/
  | file (data : ByteArray) (mode : Nat)
  /-- A directory and its permission bits. -/
  | dir (mode : Nat)
  /-- A symbolic link and the path text it points to. -/
  | link (target : String)
  /-- A character device, readable and writable by everyone. -/
  | device (d : Device)
  deriving Inhabited

namespace Node

/-- Whether the node is a directory. -/
def isDir : Node → Bool
  | .dir _ => true
  | _ => false

/-- Whether the node is a regular file. -/
def isFile : Node → Bool
  | .file _ _ => true
  | _ => false

end Node

/-- A location: the names from the root down. -/
abbrev Location := List String

/-- The files of a host: locations bound to nodes, the root left implicit. -/
structure FileTree where
  /-- The bindings, one per location, in the order the file system lists them. -/
  entries : List (Location × Node) := []
  deriving Inhabited

namespace FileTree

/-- How many symbolic links one path may pass through. -/
def maxLinks : Nat := 40

/-- Mode of the root directory. -/
def rootMode : Nat := 0o755

/-- What a location holds; the root is always a directory. -/
def lookup (t : FileTree) (loc : Location) : Option Node :=
  if loc.isEmpty then some (.dir rootMode)
  else (t.entries.find? (·.1 == loc)).map (·.2)

/-- Bind a location, replacing what it held in its place in the listing order; a new location
is listed first. -/
def insert (t : FileTree) (loc : Location) (n : Node) : FileTree :=
  if t.entries.any (·.1 == loc) then
    { entries := t.entries.map fun (l, m) => if l == loc then (l, n) else (l, m) }
  else { entries := (loc, n) :: t.entries }

/-- Unbind a location (its descendants stay). -/
def erase (t : FileTree) (loc : Location) : FileTree :=
  { entries := t.entries.filter (·.1 != loc) }

/-- Unbind a location and everything below it. -/
def eraseTree (t : FileTree) (loc : Location) : FileTree :=
  { entries := t.entries.filter fun (l, _) => !loc.isPrefixOf l }

/-- The names directly inside a directory location, in the tree's listing order. -/
def childNames (t : FileTree) (loc : Location) : List String :=
  t.entries.filterMap fun (l, _) =>
    if l.length == loc.length + 1 && loc.isPrefixOf l then l.getLast? else none

/-- The pieces of a path as the resolver reads them; a trailing slash adds a `.`. -/
def steps (path : String) : List String :=
  let ps := Path.pieces path
  if path.endsWith "/" && !ps.isEmpty then ps ++ ["."] else ps

/-- Walk the pending pieces from directory `cur`; a link to be followed is handed to `follow`
with the directory its target starts from and the pieces still pending. -/
def walkWith (t : FileTree) (followLast : Bool)
    (follow : Location → List String → Except IoError Location) :
    Location → List String → Except IoError Location
  | cur, [] => .ok cur
  | cur, "." :: rest => walkWith t followLast follow cur rest
  | cur, ".." :: rest => walkWith t followLast follow cur.dropLast rest
  | cur, name :: rest =>
    let here := cur ++ [name]
    match t.lookup here with
    | some (.link target) =>
      if rest.isEmpty && !followLast then .ok here
      else follow (if Path.isAbsolute target then [] else cur) (steps target ++ rest)
    | some (.dir _) => walkWith t followLast follow here rest
    | some (.file _ _) | some (.device _) => if rest.isEmpty then .ok here else .error .notADirectory
    | none => if rest.isEmpty then .ok here else .error .notFound

/-- Walk the pending pieces from directory `cur`, following at most `fuel` links. -/
def walk (t : FileTree) (followLast : Bool) : Nat → Location → List String → Except IoError Location
  | 0 => walkWith t followLast fun _ _ => .error .tooManyLinks
  | fuel + 1 => walkWith t followLast (walk t followLast fuel)

/-- Where a path leads from working directory `cwd`: the location of its last component, whose
directory exists. With `followLast` a link there is followed too. -/
def resolve (t : FileTree) (cwd : Location) (path : String) (followLast : Bool) :
    Except IoError Location :=
  if path.isEmpty then .error .notFound
  else walk t followLast maxLinks (if Path.isAbsolute path then [] else cwd) (steps path)

/-- The node a path leads to, following links. -/
def stat (t : FileTree) (cwd : Location) (path : String) : Except IoError Node := do
  let loc ← t.resolve cwd path true
  match t.lookup loc with
  | some n => pure n
  | none => throw .notFound

/-- The node a path names, a link itself when the last component is one. -/
def lstat (t : FileTree) (cwd : Location) (path : String) : Except IoError Node := do
  let loc ← t.resolve cwd path false
  match t.lookup loc with
  | some n => pure n
  | none => throw .notFound

/-- Whether a path leads to something. -/
def exists? (t : FileTree) (cwd : Location) (path : String) : Bool :=
  (t.stat cwd path).toBool

/-- Whether a path leads to a directory. -/
def isDir (t : FileTree) (cwd : Location) (path : String) : Bool :=
  match t.stat cwd path with
  | .ok n => n.isDir
  | .error _ => false

/-- Whether a path leads to a regular file. -/
def isFile (t : FileTree) (cwd : Location) (path : String) : Bool :=
  match t.stat cwd path with
  | .ok n => n.isFile
  | .error _ => false

/-- The bytes of the file a path leads to. -/
def readFile (t : FileTree) (cwd : Location) (path : String) : Except IoError ByteArray := do
  match ← t.stat cwd path with
  | .file data _ => pure data
  | .device d => d.contents
  | _ => throw .isADirectory

/-- Replace the bytes of the file a path leads to, creating it with `mode` when it is missing;
an existing file keeps its mode. -/
def writeFile (t : FileTree) (cwd : Location) (path : String) (data : ByteArray) (mode : Nat) :
    Except IoError FileTree := do
  let loc ← t.resolve cwd path true
  match t.lookup loc with
  | none => pure (t.insert loc (.file data mode))
  | some (.file _ m) => pure (t.insert loc (.file data m))
  | some (.device d) => do d.accepts; pure t
  | some _ => throw .isADirectory

/-- Create a new file at a path that names nothing, not even a dangling link. -/
def createNew (t : FileTree) (cwd : Location) (path : String) (data : ByteArray) (mode : Nat) :
    Except IoError FileTree := do
  let loc ← t.resolve cwd path false
  match t.lookup loc with
  | none => pure (t.insert loc (.file data mode))
  | some _ => throw .alreadyExists

/-- Create one directory; its parent must exist. -/
def mkdir (t : FileTree) (cwd : Location) (path : String) (mode : Nat) :
    Except IoError FileTree := do
  let loc ← t.resolve cwd path false
  match t.lookup loc with
  | none => pure (t.insert loc (.dir mode))
  | some _ => throw .alreadyExists

/-- Create a directory and the missing directories above it: `mkdir`, and on `notFound` the
parent first, then `mkdir` again; a failure where a directory already stands counts as done. -/
def mkdirAllWith (t : FileTree) (cwd : Location) (mode : Nat) :
    Nat → String → Except IoError FileTree
  | 0, _ => .error .notFound
  | fuel + 1, path =>
    if path.isEmpty then .ok t
    else match t.mkdir cwd path mode with
      | .ok t' => .ok t'
      | .error e =>
        if !e.isNotFound then (if t.isDir cwd path then .ok t else .error e)
        else match Path.parent? path with
          | none => .error (.other "failed to create whole tree")
          | some up => do
            let t' ← mkdirAllWith t cwd mode fuel up
            match t'.mkdir cwd path mode with
            | .ok t'' => pure t''
            | .error e => if t'.isDir cwd path then pure t' else throw e

/-- Create a directory and every missing directory above it, each with `mode`. -/
def mkdirAll (t : FileTree) (cwd : Location) (path : String) (mode : Nat) :
    Except IoError FileTree :=
  t.mkdirAllWith cwd mode (path.length + 1) path

/-- Remove the file or link a path names; a directory is refused. -/
def removeFile (t : FileTree) (cwd : Location) (path : String) : Except IoError FileTree := do
  let loc ← t.resolve cwd path false
  match t.lookup loc with
  | none => throw .notFound
  | some (.dir _) => throw .isADirectory
  | some _ => pure (t.erase loc)

/-- Remove a directory and all it holds; a link is removed itself, a file is refused. -/
def removeDirAll (t : FileTree) (cwd : Location) (path : String) : Except IoError FileTree := do
  let loc ← t.resolve cwd path false
  match t.lookup loc with
  | none => throw .notFound
  | some (.link _) => pure (t.erase loc)
  | some (.file _ _) | some (.device _) => throw .notADirectory
  | some (.dir _) => pure (t.eraseTree loc)

/-- Move what `source` names to `target`, replacing a target of the same kind: a file or link
may replace a file or link, a directory may replace an empty directory. -/
def rename (t : FileTree) (cwd : Location) (source target : String) : Except IoError FileTree := do
  let src ← t.resolve cwd source false
  let dst ← t.resolve cwd target false
  let some node := t.lookup src | throw .notFound
  if src == dst then return t
  if src.isEmpty || (node.isDir && src.isPrefixOf dst) then throw .invalidArgument
  match t.lookup dst with
  | some (.dir _) =>
    if !node.isDir then throw .isADirectory
    if !(t.childNames dst).isEmpty then throw .directoryNotEmpty
  | some _ => if node.isDir then throw .notADirectory
  | none => pure ()
  let kept := (t.eraseTree dst).entries
  let moved := kept.map fun (l, n) =>
    if src.isPrefixOf l then (dst ++ l.drop src.length, n) else (l, n)
  pure { entries := moved }

/-- The names inside the directory a path leads to. -/
def readDir (t : FileTree) (cwd : Location) (path : String) : Except IoError (List String) := do
  let loc ← t.resolve cwd path true
  match t.lookup loc with
  | none => throw .notFound
  | some (.dir _) => pure (t.childNames loc)
  | some _ => throw .notADirectory

/-- Set the permission bits of what a path leads to. -/
def chmod (t : FileTree) (cwd : Location) (path : String) (mode : Nat) :
    Except IoError FileTree := do
  let loc ← t.resolve cwd path true
  match t.lookup loc with
  | none => throw .notFound
  | some (.file data _) => pure (t.insert loc (.file data mode))
  | some (.dir _) => pure (t.insert loc (.dir mode))
  | some (.link _) | some (.device _) => pure t

/-- Make a symbolic link at a path that names nothing. -/
def symlink (t : FileTree) (cwd : Location) (target path : String) : Except IoError FileTree := do
  let loc ← t.resolve cwd path false
  match t.lookup loc with
  | none => pure (t.insert loc (.link target))
  | some _ => throw .alreadyExists

/-- Every binding at or below a location, with its location relative to it. -/
def below (t : FileTree) (loc : Location) : List (Location × Node) :=
  t.entries.filterMap fun (l, n) =>
    if loc.isPrefixOf l && l.length > loc.length then some (l.drop loc.length, n) else none

end FileTree

end HostAgent.Host
