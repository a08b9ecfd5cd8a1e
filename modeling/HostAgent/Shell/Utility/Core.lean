import HostAgent.Shell.State
import HostAgent.Shell.Getopt

/-!
# `HostAgent.Shell.Utility.Core` — what every utility uses

The host's utilities are programs the shell starts. Each runs on the shell's state as a child
process would: it reads descriptor 0, writes descriptors 1 and 2, and changes files; it does
not touch the shell's variables. What it gets is an `Invocation`: the name it was started by
(which its messages start with), its arguments and its environment. It ends with a status.

* `complain` writes `name: message`; `misuse` adds the line that points at `--help`;
* `quoteName` and `quoteAlways` quote a file name in a message the way the utilities do: not at
  all when the name is plain (for the first), in single quotes otherwise;
* `readSource` reads an input operand (`-` is standard input), `lines` cuts bytes into lines;
* a utility that wrote to a closed descriptor reports a write error and fails (`closeOutput`).
-/

namespace HostAgent.Shell

open HostAgent.Host

namespace Utility

/-- A utility as started: the name it was started by, its arguments and environment. -/
structure Invocation where
  argv0 : String
  args : List String
  env : List (String × String)

/-- A utility's computation, ending with its status. -/
abbrev UtilM := ShellM Nat

/-- Write a utility's message to its standard error. -/
def complain (inv : Invocation) (message : String) : ShellM Unit :=
  State.print 2 (inv.argv0 ++ ": " ++ message ++ "\n")

/-- Report a misuse: the message, the line pointing at `--help`, and the status. -/
def misuse (inv : Invocation) (message : String) (status : Nat) : UtilM := do
  complain inv message
  State.print 2 (Getopt.tryHelp inv.argv0 ++ "\n")
  pure status

/-- Read the options of a utility and go on with them; a misuse fails with `status`. -/
def withOptions (inv : Invocation) (spec : Getopt.Spec) (status : Nat)
    (k : Getopt.Parsed → UtilM) : UtilM :=
  match Getopt.parse spec inv.args with
  | .ok p => k p
  | .error e => misuse inv e status

/-- Whether a name can stand in a message without quotes. -/
def plainName (s : String) : Bool :=
  !s.isEmpty && s.toList.all fun c =>
    c.isAlphanum || "%+,-./:@_".toList.contains c || (c.toNat ≥ 128)

/-- A name in single quotes, each quote inside written `'\''`, control characters as
`'$'\n''`. -/
def singleQuoted (s : String) : String :=
  let piece (c : Char) : String :=
    if c == '\'' then "'\\''"
    else if c == '\n' then "'$'\\n''"
    else if c == '\t' then "'$'\\t''"
    else String.singleton c
  "'" ++ String.join (s.toList.map piece) ++ "'"

/-- A name quoted for a message, always: in double quotes when it holds a single quote and
nothing that is special inside double quotes, in single quotes otherwise. -/
def quoteAlways (s : String) : String :=
  if s.toList.contains '\'' && !s.toList.any (fun c => "$`\"\\\n\t".toList.contains c) then
    "\"" ++ s ++ "\""
  else singleQuoted s

/-- A name quoted for a message when it needs it. -/
def quoteName (s : String) : String := if plainName s then s else quoteAlways s

/-- How many zero bytes reading the zero device gives at once. -/
def zeroBlock : Nat := 65536

/-- The bytes of an input operand: `-` is standard input, the null and zero devices and the
standard descriptors are what they are, anything else a file. -/
def readSource (name : String) : ShellM (Except IoError (List UInt8)) := do
  if name == "-" || name == "/dev/stdin" || name == "/dev/fd/0" then
    match ← State.readAll with
    | some bs => pure (.ok bs)
    | none => pure (.error (.other "Bad file descriptor"))
  else if name == "/dev/null" then pure (.ok [])
  else if name == "/dev/zero" then pure (.ok (List.replicate zeroBlock 0))
  else
    let s ← get
    pure ((s.readFile name).map (·.toList))

/-- Whether descriptor 0 is an open file, whose offset a reader leaves just after what it used. -/
def inputSeekable : ShellM Bool := do
  let s ← get
  pure (match s.fd? 0 with
    | some (.file _) => true
    | _ => false)

/-- Read the inputs in order, reporting those that cannot be read with `report`; the bytes of
each one read, and whether one failed. -/
def readInputs (inv : Invocation) (names : List String) (report : String → IoError → String) :
    ShellM (List (String × List UInt8) × Bool) := do
  let mut read : List (String × List UInt8) := []
  let mut failed := false
  for n in names do
    match ← readSource n with
    | .ok bs => read := read ++ [(n, bs)]
    | .error e =>
      complain inv (report n e)
      failed := true
  pure (read, failed)

/-- The usual report of an input that cannot be read: `name: reason`. -/
def plainReport (n : String) (e : IoError) : String := quoteName n ++ ": " ++ e.description

/-- Bytes cut into lines, each without its newline; the last one is kept when no newline
ends it. -/
def lines (bs : List UInt8) : List (List UInt8) :=
  let rec go : Nat → List UInt8 → List (List UInt8)
    | 0, _ => []
    | _, [] => []
    | fuel + 1, bs =>
      let l := bs.takeWhile (· != 10)
      l :: go fuel (bs.drop (l.length + 1))
  go (bs.length + 1) bs

/-- Lines put back together, each followed by a newline. -/
def unlines (ls : List (List UInt8)) : List UInt8 := ls.flatMap (· ++ [10])

/-- Write bytes to standard output. -/
def emit (bs : List UInt8) : ShellM Unit := State.write 1 (ByteArray.mk bs.toArray)

/-- Write octet text to standard output. -/
def emitText (t : String) : ShellM Unit := State.print 1 t

/-- The end of a utility: a write that failed turns a success into a failure, with the message
the utilities give when they close their output. -/
def closeOutput (inv : Invocation) (status : Nat) : UtilM := do
  let s ← get
  if s.writeFailed && status == 0 then
    complain inv ("write error: " ++ s.writeReason)
    pure 1
  else pure status

/-- The permission text of a node: its type letter and the nine permission letters, with the
set-user, set-group and sticky bits in the execute places. -/
def modeLetters (n : Node) : String :=
  let (kind, mode) := match n with
    | .file _ m => ('-', m)
    | .dir m => ('d', m)
    | .link _ => ('l', 0o777)
    | .device _ => ('c', 0o666)
  let bit (b : Nat) (c : Char) : Char := if mode &&& b != 0 then c else '-'
  let exec (b special : Nat) (set unset : Char) : Char :=
    if mode &&& special != 0 then (if mode &&& b != 0 then set else unset)
    else bit b 'x'
  String.ofList [kind, bit 0o400 'r', bit 0o200 'w', exec 0o100 0o4000 's' 'S',
    bit 0o40 'r', bit 0o20 'w', exec 0o10 0o2000 's' 'S',
    bit 0o4 'r', bit 0o2 'w', exec 0o1 0o1000 't' 'T']

/-- The permission bits of a node. -/
def modeBits : Node → Nat
  | .file _ m => m
  | .dir m => m
  | .link _ => 0o777
  | .device _ => 0o666

/-- A time interval as `sleep` and `timeout` read it, in milliseconds: a decimal number with
an optional unit `s`, `m`, `h` or `d` (seconds when there is none). -/
def intervalMillis? (s : String) : Option Nat :=
  let cs := s.toList
  let (cs, unit) := match cs.getLast? with
    | some 's' => (cs.dropLast, 1000)
    | some 'm' => (cs.dropLast, 60000)
    | some 'h' => (cs.dropLast, 3600000)
    | some 'd' => (cs.dropLast, 86400000)
    | _ => (cs, 1000)
  let whole := cs.takeWhile (· != '.')
  let frac := (cs.drop (whole.length + 1))
  let digits := whole ++ frac
  if digits.isEmpty || !digits.all Char.isDigit || cs.count '.' > 1 then none
  else
    let value (ds : List Char) : Nat := ds.foldl (fun v c => 10 * v + (c.toNat - 48)) 0
    let fracScale := Nat.pow 10 frac.length
    some (value whole * unit + value frac * unit / fracScale)

/-- How a command that a utility started ended. -/
inductive Started where
  | exited (status : Nat)
  | killed (signal : Nat)
  | failed (e : IoError)

/-- What starts the commands a utility runs: by name and arguments, searched through `PATH`;
with `quietInput` the command's standard input is empty. -/
structure Launcher where
  start : (quietInput : Bool) → List String → ShellM Started

/-- A decimal count: digits only. -/
def count? (s : String) : Option Nat :=
  if !s.isEmpty && s.toList.all Char.isDigit then
    some (s.toList.foldl (fun v c => 10 * v + (c.toNat - 48)) 0)
  else none

/-- A count with an optional multiplier suffix, as `head` and `tail` read it: `b` (512), `K`
or `KiB` (1024), `kB` (1000), `M`, `MiB`, `MB`, `G`, ... -/
def sizedCount? (s : String) : Option Nat :=
  let ds := s.toList.takeWhile Char.isDigit
  let suffix := String.ofList (s.toList.drop ds.length)
  let base := count? (String.ofList ds)
  let k := 1024
  let multiplier : Option Nat := match suffix with
    | "" => some 1
    | "b" => some 512
    | "K" | "KiB" => some k
    | "kB" => some 1000
    | "M" | "MiB" => some (k * k)
    | "MB" => some 1000000
    | "G" | "GiB" => some (k * k * k)
    | "GB" => some 1000000000
    | _ => none
  match base, multiplier with
  | some n, some m => some (n * m)
  | _, _ => none

end Utility

end HostAgent.Shell
