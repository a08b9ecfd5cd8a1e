import HostAgent.Host.FileTree
import HostAgent.Shell.Syntax
import HostAgent.Shell.Octets
import HostAgent.Shell.Signals

/-!
# `HostAgent.Shell.State` — a running shell

The state of a shell process: the files it sees, its working directory, variables and
positional parameters, the status of the last command, its descriptors, and what it has
written so far. All text the shell handles is octet text (`HostAgent.Shell.Octets`); the file
tree names files by character strings, and the state converts between the two.

* Descriptors lead to a `Desc`: the process's own input, output or error pipe, the null, zero,
  full or a random device, the buffer of the innermost command substitution or pipeline stage, bytes of its own,
  or an open file. Open files live in a table of their own, so that descriptors duplicated from
  one another share one offset, as they do on the host.
* Commands end with a `Flow`: on to the next command, leave the shell with a status, the shell
  killed by a signal, leave enclosing loops, or return from a function.
* Variables carry their export and read-only marks; options, traps, the file creation mask and
  the logical working directory (`PWD`) are kept too.

## Contents
- `Desc`, `OpenFile`, `Flow`, `Options`, `Variable`, `State`;
- `State.write`, `State.readAll`, `State.readUpTo`, `State.readLine` — moving bytes;
- `State.diagnose` — an error line in the shell's own format;
- `State.lookupVar`, `State.setVar`, `State.exportedEnv` — variables;
- `State.stat`, `State.readFile`, ... — the file tree seen through octet-text paths.
-/

namespace HostAgent.Shell

open HostAgent.Host

/-- What a descriptor leads to. -/
inductive Desc where
  /-- The process's standard input pipe; its unread bytes are `State.stdinRest`. -/
  | stdin
  /-- The process's standard output pipe. -/
  | stdout
  /-- The process's standard error pipe. -/
  | stderr
  /-- The null device: reading gives nothing, writing is dropped. -/
  | null
  /-- The zero device: reading gives zero bytes, writing is dropped. -/
  | zero
  /-- The full device: reading gives zero bytes, writing fails for want of space. -/
  | full
  /-- A random device: reading gives noise, writing is dropped. -/
  | random
  /-- The buffer of the innermost command substitution or pipeline stage. -/
  | capture
  /-- Bytes of its own, not yet read: a here-document, a file read whole, a pipe's contents. -/
  | data (rest : List UInt8)
  /-- An entry of the open file table. -/
  | file (id : Nat)
  deriving DecidableEq, Repr

/-- A file opened by a redirection: where it is, the offset of the next read or write, whether
every write goes to its end, and whether it may be read and written. -/
structure OpenFile where
  loc : Location
  offset : Nat := 0
  append : Bool := false
  readable : Bool := false
  writable : Bool := true
  deriving DecidableEq, Repr

/-- How a command ends. -/
inductive Flow where
  /-- Go on with the next command. -/
  | next
  /-- Leave the shell (or the subshell) with a status. -/
  | exit (status : Nat)
  /-- The shell was killed by a signal. -/
  | killed (signal : Nat)
  /-- `break n`. -/
  | breakLoop (levels : Nat)
  /-- `continue n`. -/
  | continueLoop (levels : Nat)
  /-- `return n`: leave the running function with a status. -/
  | returned (status : Nat)
  deriving DecidableEq, Repr

/-- The options `set` changes. -/
structure Options where
  /-- `-e`: a failing command that is not tested ends the shell. -/
  errexit : Bool := false
  /-- `-f`: no pathname expansion. -/
  noglob : Bool := false
  /-- `-u`: expanding an unset parameter is an error. -/
  nounset : Bool := false
  /-- `-x`: each simple command is written to standard error before it runs. -/
  xtrace : Bool := false
  /-- `-v`: input lines are written to standard error as they are read. -/
  verbose : Bool := false
  /-- `-C`: `>` does not overwrite an existing regular file. -/
  noclobber : Bool := false
  /-- `-a`: every variable assigned is exported. -/
  allexport : Bool := false
  /-- `-n`: commands are read but not run. -/
  noexec : Bool := false
  deriving DecidableEq, Repr

/-- The option letters, the names `set -o` knows them by, and how to read and change them. -/
def Options.table : List (Char × String × (Options → Bool) × (Options → Bool → Options)) :=
  [('e', "errexit", (·.errexit), fun o v => { o with errexit := v }),
   ('f', "noglob", (·.noglob), fun o v => { o with noglob := v }),
   ('n', "noexec", (·.noexec), fun o v => { o with noexec := v }),
   ('x', "xtrace", (·.xtrace), fun o v => { o with xtrace := v }),
   ('v', "verbose", (·.verbose), fun o v => { o with verbose := v }),
   ('C', "noclobber", (·.noclobber), fun o v => { o with noclobber := v }),
   ('a', "allexport", (·.allexport), fun o v => { o with allexport := v }),
   ('u', "nounset", (·.nounset), fun o v => { o with nounset := v })]

/-- Option letters that are accepted but change nothing the model keeps. -/
def Options.inert : List Char := ['I', 'i', 'm', 's', 'V', 'E', 'b', 'p', 'l', 'h']

/-- Names `set -o` accepts that change nothing the model keeps. -/
def Options.inertNames : List String :=
  ["ignoreeof", "interactive", "monitor", "stdin", "vi", "emacs", "notify", "nolog", "debug",
    "privileged", "pipefail"]

/-- Set or clear the option of a letter; `none` when the letter names no option. -/
def Options.setLetter (o : Options) (c : Char) (v : Bool) : Option Options :=
  match Options.table.find? (·.1 == c) with
  | some (_, _, _, put) => some (put o v)
  | none => if Options.inert.contains c then some o else none

/-- Set or clear the option of a name; `none` when the name is not an option. -/
def Options.setName (o : Options) (n : String) (v : Bool) : Option Options :=
  match Options.table.find? (·.2.1 == n) with
  | some (_, _, _, put) => some (put o v)
  | none => if Options.inertNames.contains n then some o else none

/-- The letters of the options that are on, as `$-` shows them. -/
def Options.letters (o : Options) : String :=
  String.ofList (Options.table.filterMap fun (c, _, get, _) => if get o then some c else none)

/-- A shell variable: its value (none for a name only marked), and its marks. -/
structure Variable where
  value : Option String
  exported : Bool := false
  readonly : Bool := false
  deriving DecidableEq, Repr

/-- A running shell. -/
structure State where
  /-- The files the shell sees and changes. -/
  files : FileTree
  /-- The working directory, as the location it is. -/
  cwd : Location
  /-- The working directory as the shell names it (`PWD`), symbolic links kept. -/
  pwd : String
  /-- The name diagnostics start with: the script's path, or the shell's own name. -/
  name : String
  /-- The process number `$$` expands to. -/
  pid : Nat
  /-- The number of the process running now: the shell's own, or a subshell's. -/
  self : Nat
  /-- The number the next process started gets. -/
  nextPid : Nat := 0
  /-- The number of the last command started in the background (`$!`). -/
  lastAsync : Option Nat := none
  /-- Shell variables, latest first. -/
  vars : List (String × Variable)
  /-- The positional parameters. -/
  args : List String
  /-- The status of the last command. -/
  status : Nat := 0
  /-- The status of the last command substitution of the command being expanded. -/
  substituted : Nat := 0
  /-- The options `set` changes. -/
  options : Options := {}
  /-- The file creation mask. -/
  umask : Nat := 0o022
  /-- The open descriptors. -/
  fds : List (Nat × Desc) := [(0, .stdin), (1, .stdout), (2, .stderr)]
  /-- The open file table. -/
  openFiles : List (Nat × OpenFile) := []
  /-- The number the next open file gets. -/
  nextFile : Nat := 0
  /-- The unread bytes of the process's standard input. -/
  stdinRest : List UInt8
  /-- What the process wrote to its standard output. -/
  stdout : ByteArray := .empty
  /-- What the process wrote to its standard error. -/
  stderr : ByteArray := .empty
  /-- The buffer of the innermost command substitution. -/
  captured : ByteArray := .empty
  /-- A write went to a descriptor that cannot take it, since the command started. -/
  writeFailed : Bool := false
  /-- Why the last write that failed did. -/
  writeReason : String := "Bad file descriptor"
  /-- The line of the command running now. -/
  line : Nat := 0
  /-- Steps left before the run is stopped from outside. -/
  budget : Nat := 0
  /-- The milliseconds the processes have slept so far; nothing else takes time. -/
  elapsed : Nat := 0
  /-- The time at which the innermost `timeout` running stops its command. -/
  deadline : Option Nat := none
  /-- The budget held back, once a deadline has come, while the processes it stops give up. -/
  heldBudget : Option Nat := none
  /-- A signal that killed the shell inside a command substitution. -/
  pendingKill : Option Nat := none
  /-- The status to leave the shell with after an expansion failed. -/
  pendingExit : Option Nat := none
  /-- Signals that reached the shell and wait for their trap actions, oldest first. -/
  signals : List Nat := []
  /-- The functions defined, latest first. -/
  functions : List (String × Command) := []
  /-- For each running function, innermost first, the variables it made local and what they
  were before. -/
  frames : List (List (String × Option Variable)) := []
  /-- Trap actions by condition, `0` being the shell's exit; an empty action ignores the
  signal. -/
  traps : List (Nat × String) := []
  /-- How many loops enclose the command running now. -/
  loops : Nat := 0
  /-- The commands started in the background, with the status each finished with. -/
  jobs : List (Nat × Nat) := []
  /-- Groups of locations that are hard links of one file: a change to one is a change to
  all. -/
  links : List (List Location) := []

/-- A shell computation. -/
abbrev ShellM := StateM State

namespace State

/-! ## Files and their hard links -/

/-- The locations that share their contents with a location: its hard links, itself among
them. -/
def linked (s : State) (loc : Location) : List Location :=
  match s.links.find? (·.contains loc) with
  | some group => group
  | none => [loc]

/-- Store a node at a location and at every hard link of it. -/
def putNode (loc : Location) (n : Node) : ShellM Unit :=
  modify fun s => { s with files := (s.linked loc).foldl (fun t l => t.insert l n) s.files }

/-- A location no longer names its file: it leaves its group of hard links. -/
def unlinkLoc (loc : Location) : ShellM Unit :=
  modify fun s => { s with links := (s.links.map (·.filter (· != loc))).filter (·.length > 1) }

/-- Locations under `old` now stand under `new`, as after a rename. -/
def moveLinks (old new : Location) : ShellM Unit :=
  modify fun s =>
    let moveOne (l : Location) : Location :=
      if old.isPrefixOf l then new ++ l.drop old.length
      else if new.isPrefixOf l then [] else l
    { s with links := (s.links.map fun g => (g.map moveOne).filter (!·.isEmpty)).filter (·.length > 1) }

/-- Join a new location to the hard links of an existing one. -/
def addLink (existing new : Location) : ShellM Unit :=
  modify fun s =>
    match s.links.find? (·.contains existing) with
    | some _ => { s with links := s.links.map fun g => if g.contains existing then g ++ [new] else g }
    | none => { s with links := [existing, new] :: s.links }

/-- The mode a new file or directory gets: `base` less the bits of the creation mask. -/
def createMode (s : State) (base : Nat) : Nat := base - (base &&& s.umask)

/-! ## Descriptors -/

/-- What a descriptor leads to, if it is open. -/
def fd? (s : State) (fd : Nat) : Option Desc := (s.fds.find? (·.1 == fd)).map (·.2)

/-- Point a descriptor somewhere, or close it. -/
def setFd (fd : Nat) (d : Option Desc) : ShellM Unit :=
  modify fun s =>
    let others := s.fds.filter (·.1 != fd)
    { s with fds := match d with
      | some d => (fd, d) :: others
      | none => others }

/-- An entry of the open file table. -/
def openFile? (s : State) (id : Nat) : Option OpenFile := (s.openFiles.find? (·.1 == id)).map (·.2)

/-- Add an entry to the open file table; its number. -/
def addOpenFile (f : OpenFile) : ShellM Nat := do
  let s ← get
  set { s with openFiles := (s.nextFile, f) :: s.openFiles, nextFile := s.nextFile + 1 }
  pure s.nextFile

/-- Change an entry of the open file table. -/
def putOpenFile (id : Nat) (f : OpenFile) : ShellM Unit :=
  modify fun s => { s with openFiles := s.openFiles.map fun (i, g) => if i == id then (i, f) else (i, g) }

/-- Bytes written over a file's contents at an offset, zeros filling a gap before it. -/
def overwrite (old : ByteArray) (offset : Nat) (data : ByteArray) : ByteArray :=
  let before := if offset ≤ old.size then old.extract 0 offset
    else old ++ ByteArray.mk (List.replicate (offset - old.size) 0).toArray
  before ++ data ++ old.extract (offset + data.size) old.size

/-- Write bytes to a descriptor; a descriptor that is closed or cannot be written marks the
write as failed. -/
def write (fd : Nat) (data : ByteArray) : ShellM Unit := do
  let s ← get
  match s.fd? fd with
  | some .stdout => set { s with stdout := s.stdout ++ data }
  | some .stderr => set { s with stderr := s.stderr ++ data }
  | some .capture => set { s with captured := s.captured ++ data }
  | some .null | some .zero | some .random => pure ()
  | some .full => set { s with writeFailed := true, writeReason := IoError.noSpace.description }
  | some (.file id) =>
    match s.openFile? id with
    | some f =>
      if !f.writable then set { s with writeFailed := true, writeReason := "Bad file descriptor" } else
      match s.files.lookup f.loc with
      | some (.file old mode) =>
        let at_ := if f.append then old.size else f.offset
        putNode f.loc (.file (overwrite old at_ data) mode)
        putOpenFile id { f with offset := at_ + data.size }
      | _ => pure ()
    | none => set { s with writeFailed := true, writeReason := "Bad file descriptor" }
  | _ => set { s with writeFailed := true, writeReason := "Bad file descriptor" }

/-- Write octet text to a descriptor. -/
def print (fd : Nat) (text : String) : ShellM Unit := write fd (Octets.toByteArray text)

/-- The bytes descriptor 0 still has to give, how to take `n` of them away (all of them for
`none`), or `none` when it cannot be read. -/
def inputBytes (s : State) : Option (List UInt8) :=
  match s.fd? 0 with
  | some .stdin => some s.stdinRest
  | some (.data rest) => some rest
  | some .null => some []
  | some (.file id) =>
    match s.openFile? id with
    | some f =>
      if !f.readable then none
      else match s.files.lookup f.loc with
        | some (.file data _) => some (data.toList.drop f.offset)
        | _ => some []
    | none => none
  | _ => none

/-- Take `n` bytes off descriptor 0. -/
def consume (n : Nat) : ShellM Unit := do
  let s ← get
  match s.fd? 0 with
  | some .stdin => set { s with stdinRest := s.stdinRest.drop n }
  | some (.data rest) => setFd 0 (some (.data (rest.drop n)))
  | some (.file id) =>
    match s.openFile? id with
    | some f => putOpenFile id { f with offset := f.offset + n }
    | none => pure ()
  | _ => pure ()

/-- How many zero bytes a read of the zero device gives at once when no count is asked. -/
def zeroChunk : Nat := 65536

/-- Read everything descriptor 0 still has; `none` when it cannot be read. -/
def readAll : ShellM (Option (List UInt8)) := do
  let s ← get
  if s.fd? 0 == some .zero || s.fd? 0 == some .full then return some (List.replicate zeroChunk 0)
  if s.fd? 0 == some .random then return some (Device.noise zeroChunk).toList
  match s.inputBytes with
  | some bs => consume bs.length; pure (some bs)
  | none => pure none

/-- Read at most `n` bytes from descriptor 0; `none` when it cannot be read. -/
def readUpTo (n : Nat) : ShellM (Option (List UInt8)) := do
  let s ← get
  if s.fd? 0 == some .zero || s.fd? 0 == some .full then return some (List.replicate n 0)
  if s.fd? 0 == some .random then return some (Device.noise n).toList
  match s.inputBytes with
  | some bs => consume (min n bs.length); pure (some (bs.take n))
  | none => pure none

/-- Read one line from descriptor 0: the bytes before the newline, and whether a newline ended
it; `none` at the end of the input or when it cannot be read. -/
def readLine : ShellM (Option (List UInt8 × Bool)) := do
  let s ← get
  if s.fd? 0 == some .zero || s.fd? 0 == some .full then return some (List.replicate zeroChunk 0, false)
  if s.fd? 0 == some .random then
    let bytes := (Device.noise zeroChunk).toList
    let lineBytes := bytes.takeWhile (· != 10)
    return some (lineBytes, lineBytes.length < bytes.length)
  match s.inputBytes with
  | none | some [] => pure none
  | some rest =>
    let lineBytes := rest.takeWhile (· != 10)
    let ended := lineBytes.length < rest.length
    consume (lineBytes.length + (if ended then 1 else 0))
    pure (some (lineBytes, ended))

/-! ## Diagnostics -/

/-- Write an error line in the shell's format, `name: line: message`. -/
def diagnose (message : String) : ShellM Unit := do
  let s ← get
  print 2 (s.name ++ ": " ++ toString s.line ++ ": " ++ message ++ "\n")

/-! ## Variables -/

/-- A variable's entry. -/
def varEntry? (s : State) (n : String) : Option Variable := (s.vars.find? (·.1 == n)).map (·.2)

/-- The value of a variable. -/
def lookupVar (s : State) (n : String) : Option String := (s.varEntry? n).bind (·.value)

/-- Replace a variable's entry. -/
def putVariable (n : String) (v : Variable) : ShellM Unit :=
  modify fun s =>
    if s.vars.any (·.1 == n) then { s with vars := s.vars.map fun (m, w) => if m == n then (m, v) else (m, w) }
    else { s with vars := (n, v) :: s.vars }

/-- Set a variable, keeping its marks (and exporting it under `set -a`); the message when it is
read-only. -/
def setVar (n v : String) : ShellM (Option String) := do
  let s ← get
  match s.varEntry? n with
  | some old =>
    if old.readonly then pure (some (n ++ ": is read only"))
    else do
      putVariable n { old with value := some v, exported := old.exported || s.options.allexport }
      pure none
  | none => do
    putVariable n { value := some v, exported := s.options.allexport }
    pure none

/-- Remove a variable; the message when it is read-only. -/
def unsetVar (n : String) : ShellM (Option String) := do
  let s ← get
  match s.varEntry? n with
  | some old =>
    if old.readonly then pure (some (n ++ ": is read only"))
    else do
      set { s with vars := s.vars.filter (·.1 != n) }
      pure none
  | none => pure none

/-- Mark a variable exported or read-only, giving it a value when one is given. -/
def markVar (n : String) (value : Option String) (exported readonly : Bool) : ShellM Unit := do
  let s ← get
  let old := (s.varEntry? n).getD { value := none }
  putVariable n { value := value.orElse fun _ => old.value, exported := old.exported || exported,
                  readonly := old.readonly || readonly }

/-- The table slot the shell keeps a variable in: the first byte times 16 plus every byte of
the name, modulo 39. The environment a program gets lists the variables slot by slot. -/
def slot (n : String) : Nat :=
  let bs := Octets.toBytes n
  ((bs.headD 0).toNat * 16 + bs.foldl (fun acc b => acc + b.toNat) 0) % 39

/-- The environment a program started by the shell gets: the exported variables that have a
value, slot by slot of the shell's table, the latest made first within a slot. -/
def exportedEnv (s : State) : List (String × String) :=
  let exported := s.vars.filterMap fun (n, v) =>
    match v.value with
    | some value => if v.exported then some (n, value) else none
    | none => none
  exported.mergeSort fun a b => slot a.1 ≤ slot b.1

/-- Spend one step of the budget; `false` when none is left. -/
def spend : ShellM Bool := do
  let s ← get
  if s.budget == 0 then pure false
  else
    set { s with budget := s.budget - 1 }
    pure true

/-- Let time pass. When the deadline comes first, the clock stops there and the budget is held
back: every process running gives up, as for a spent budget, until the `timeout` whose deadline
it is takes the budget back. -/
def pass (ms : Nat) : ShellM Unit := do
  let s ← get
  match s.deadline with
  | some d =>
    if s.elapsed + ms ≥ d then set { s with elapsed := d, heldBudget := some s.budget, budget := 0 }
    else set { s with elapsed := s.elapsed + ms }
  | none => set { s with elapsed := s.elapsed + ms }

/-- Set the status of the last command. -/
def setStatus (n : Nat) : ShellM Unit := modify fun s => { s with status := n }

/-- The field separators: `IFS`, or blank, tab and newline when it is unset. -/
def ifs (s : State) : String := (s.lookupVar "IFS").getD " \t\n"

/-! ## Files through octet-text paths -/

/-- A path of octet text as the file tree names it. -/
def treePath (p : String) : String := Octets.toUnicode p

/-- What a path leads to, links followed. -/
def stat (s : State) (p : String) : Except IoError Node := s.files.stat s.cwd (treePath p)

/-- What a path names, a last link not followed. -/
def lstat (s : State) (p : String) : Except IoError Node := s.files.lstat s.cwd (treePath p)

/-- The location a path leads to. -/
def resolve (s : State) (p : String) (followLast : Bool) : Except IoError Location :=
  s.files.resolve s.cwd (treePath p) followLast

/-- The bytes of a file. -/
def readFile (s : State) (p : String) : Except IoError ByteArray := s.files.readFile s.cwd (treePath p)

/-- The names in a directory, as octet text. -/
def readDir (s : State) (p : String) : Except IoError (List String) :=
  (s.files.readDir s.cwd (treePath p)).map (·.map Octets.ofUnicode)

/-- Whether a path leads to a directory. -/
def isDir (s : State) (p : String) : Bool := s.files.isDir s.cwd (treePath p)

/-- The absolute path of a location, as octet text. -/
def locationText (loc : Location) : String := Octets.ofUnicode ("/" ++ "/".intercalate loc)

end State

end HostAgent.Shell
