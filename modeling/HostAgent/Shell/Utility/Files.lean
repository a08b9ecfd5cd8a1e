import HostAgent.Shell.Utility.Core
import HostAgent.Host.Path

/-!
# `HostAgent.Shell.Utility.Files` — utilities that change and list files

`mkdir`, `rmdir`, `rm`, `touch`, `cp`, `mv`, `ln`, `tee`, `chmod`, `ls`, `basename`,
`dirname`, `readlink` and `realpath`.

New files get mode `666` and new directories `777`, less the bits of the file creation mask;
`mkdir -p` gives the directories above the last one at least `u+wx`. A hard link (`ln` without
`-s`) joins the group of locations that share one file's contents (`State.links`), so a change
through one name is seen through the others.

Errors name the file in quotes, `cannot remove 'x': No such file or directory`, and the utility
goes on with its other operands, failing at the end.
-/

namespace HostAgent.Shell

open HostAgent.Host

namespace Utility

open Getopt

/-- The last component of a path, trailing slashes ignored. -/
def lastComponent (p : String) : String :=
  let trimmed := (p.toList.reverse.dropWhile (· == '/')).reverse
  if trimmed.isEmpty then (if p.isEmpty then "" else "/")
  else String.ofList (trimmed.reverse.takeWhile (· != '/')).reverse

/-- A path with a name added below it. -/
def below (dir name : String) : String :=
  if dir.endsWith "/" then dir ++ name else dir ++ "/" ++ name

/-- Where a copy, move or link of `source` named `dest` goes: inside `dest` when that is a
directory. -/
def placeIn (source dest : String) : ShellM String := do
  let s ← get
  pure (if s.isDir dest then below dest (lastComponent source) else dest)

/-! ## `mkdir`, `rmdir`, `touch` -/

/-- The permission bits a symbolic mode gives a file with mode `old`: clauses `who op perms`
separated by commas, `who` among `ugoa` (none means all, less the creation mask), `op` one of
`+ - =`, `perms` among `rwxXst` or one of `ugo` to copy that class. `none` when the text is not
a mode. -/
def symbolicMode (text : String) (old : Nat) (isDir : Bool) (umask : Nat) : Option Nat :=
  let clause (mode : Nat) (c : String) : Option Nat :=
    let cs := c.toList
    let who := cs.takeWhile fun ch => "ugoa".toList.contains ch
    let whoMask : Nat := who.foldl (fun m ch => m ||| match ch with
      | 'u' => 0o4700
      | 'g' => 0o2070
      | 'o' => 0o1007
      | _ => 0o7777) 0
    let whoMask := if who.isEmpty then 0o7777 - (0o7777 &&& umask) else whoMask
    -- the operations, each an operator and its permissions
    let rec ops : Nat → List Char → Nat → Option Nat
      | 0, _, m => some m
      | _, [], m => some m
      | fuel + 1, op :: rest, m =>
        if !"+-=".toList.contains op then none
        else
          let perms := rest.takeWhile fun ch => !"+-=".toList.contains ch
          let after := rest.drop perms.length
          let copy (shift : Nat) : Nat :=
            let bits := (m / Nat.pow 8 shift) % 8
            bits * 0o111
          let value : Option Nat := match perms with
            | ['u'] => some (copy 2)
            | ['g'] => some (copy 1)
            | ['o'] => some (copy 0)
            | _ =>
              if perms.all (fun ch => "rwxXst".toList.contains ch) then
                some (perms.foldl (fun v ch => v ||| match ch with
                  | 'r' => 0o444
                  | 'w' => 0o222
                  | 'x' => 0o111
                  | 'X' => if isDir || m &&& 0o111 != 0 then 0o111 else 0
                  | 's' => 0o6000
                  | _ => 0o1000) 0)
              else none
          match value with
          | none => none
          | some v =>
            let change := v &&& whoMask
            let m := match op with
              | '+' => m ||| change
              | '-' => m - (m &&& change)
              | _ => (m - (m &&& whoMask)) ||| change
            ops fuel after m
    match cs.drop who.length with
    | [] => none
    | rest => ops (rest.length + 1) rest mode
  (text.splitOn ",").foldl (fun acc c => acc.bind fun m => clause m c) (some old)

/-- A mode as `chmod` and `mkdir -m` read it: octal digits, or a symbolic mode. -/
def readMode (spec : String) (old : Nat) (isDir : Bool) (umask : Nat) : Option Nat :=
  if !spec.isEmpty && spec.length ≤ 4 && spec.toList.all (fun c => '0' ≤ c && c ≤ '7') then
    some (spec.toList.foldl (fun v c => 8 * v + (c.toNat - 48)) 0)
  else if !spec.isEmpty && spec.toList.all (fun c => '0' ≤ c && c ≤ '9') then none
  else symbolicMode spec old isDir umask

/-- `mkdir [-p] [-m mode] dirs...`. -/
def mkdir (inv : Invocation) : UtilM :=
  withOptions inv { opts := [withArg "m" 'm' "mode", flag "p" 'p' "parents", flag "v" 'v' "verbose",
      { key := "Z", short := some 'Z', long := some "context", arg := .optional }] ++ standard } 1 fun p => do
    if p.operands.isEmpty then return (← misuse inv "missing operand" 1)
    let s ← get
    let base := s.createMode 0o777
    let mode := match p.last? "m" with
      | some spec => readMode spec 0o777 true s.umask
      | none => some base
    match mode with
    | none => misuse inv ("invalid mode " ++ quoteAlways ((p.last? "m").getD "")) 1
    | some mode =>
      let mut status := 0
      for d in p.operands do
        let s ← get
        let result : Except IoError FileTree :=
          if p.has "p" then
            match s.stat d with
            | .ok (.dir _) => .ok s.files
            | .ok _ => .error .alreadyExists
            | .error _ =>
              -- the directories above get `u+wx` at least
              let parentMode := base ||| 0o300
              match Path.parent? d with
              | some parent =>
                if parent.isEmpty || s.isDir parent then s.files.mkdir s.cwd (State.treePath d) mode
                else do
                  let t ← s.files.mkdirAll s.cwd (State.treePath parent) parentMode
                  t.mkdir s.cwd (State.treePath d) mode
              | none => s.files.mkdir s.cwd (State.treePath d) mode
          else s.files.mkdir s.cwd (State.treePath d) mode
        match result with
        | .ok files =>
          set { s with files }
          if p.has "v" then emitText (inv.argv0 ++ ": created directory " ++ quoteAlways d ++ "\n")
        | .error e =>
          complain inv ("cannot create directory " ++ quoteAlways d ++ ": " ++ e.description)
          status := 1
      closeOutput inv status

/-- `rmdir [-p] dirs...`: remove empty directories. -/
def rmdir (inv : Invocation) : UtilM :=
  withOptions inv { opts := [longFlag "ignore" "ignore-fail-on-non-empty", flag "p" 'p' "parents",
      flag "v" 'v' "verbose"] ++ standard } 1 fun p => do
    if p.operands.isEmpty then return (← misuse inv "missing operand" 1)
    let mut status := 0
    for d in p.operands do
      let targets := if p.has "p" then
          let rec ups : Nat → String → List String
            | 0, _ => []
            | fuel + 1, x =>
              match Path.parent? x with
              | some parent => if parent.isEmpty || parent == "/" || parent == "." then [x] else x :: ups fuel parent
              | none => [x]
          ups (d.length + 1) ((d.toList.reverse.dropWhile (· == '/')).reverse |> String.ofList)
        else [d]
      for t in targets do
        let s ← get
        let outcome : Except IoError FileTree := do
          let loc ← s.resolve t false
          match s.files.lookup loc with
          | none => throw .notFound
          | some (.dir _) =>
            if loc.isEmpty then throw (.other "Device or resource busy")
            else if !(s.files.childNames loc).isEmpty then throw .directoryNotEmpty
            else pure (s.files.erase loc)
          | some _ => throw .notADirectory
        match outcome with
        | .ok files =>
          set { s with files }
          if p.has "v" then emitText (inv.argv0 ++ ": removing directory, " ++ quoteAlways t ++ "\n")
        | .error e =>
          if !(p.has "ignore" && e == .directoryNotEmpty) then
            complain inv ("failed to remove " ++ quoteAlways t ++ ": " ++ e.description)
            status := 1
          break
    closeOutput inv status

/-- `touch files...`: create the files that are missing, empty. -/
def touch (inv : Invocation) : UtilM :=
  withOptions inv { opts := [{ key := "a", short := some 'a' }, flag "c" 'c' "no-create",
      withArg "d" 'd' "date", { key := "f", short := some 'f' }, flag "h" 'h' "no-dereference",
      { key := "m", short := some 'm' }, withArg "r" 'r' "reference", { key := "t", short := some 't', arg := .required },
      longOnly "time" "time" .required] ++ standard } 1 fun p => do
    if p.operands.isEmpty then return (← misuse inv "missing file operand" 1)
    let mut status := 0
    for f in p.operands do
      let s ← get
      match s.stat f with
      | .ok _ => pure ()
      | .error _ =>
        if p.has "c" then continue
        match s.resolve f true with
        | .ok loc =>
          match s.files.lookup loc with
          | some _ => pure ()
          | none =>
            if f.endsWith "/" then
              complain inv ("setting times of " ++ quoteAlways f ++ ": No such file or directory")
              status := 1
            else State.putNode loc (.file .empty (s.createMode 0o666))
        | .error e =>
          complain inv ("cannot touch " ++ quoteAlways f ++ ": " ++ e.description)
          status := 1
    closeOutput inv status

/-! ## `rm` -/

/-- `rm [-f] [-r] [-d] paths...`. -/
def rm (inv : Invocation) : UtilM :=
  withOptions inv { opts := [flag "d" 'd' "dir", flag "f" 'f' "force", { key := "i", short := some 'i' },
      { key := "I", short := some 'I' }, longOnly "interactive" "interactive" .optional,
      longFlag "one-file-system" "one-file-system", longFlag "no-preserve-root" "no-preserve-root",
      longOnly "preserve-root" "preserve-root" .optional, flag "r" 'r' "recursive",
      { key := "r", short := some 'R' }, flag "v" 'v' "verbose"] ++ standard } 1 fun p => do
    let force := p.has "f"
    if p.operands.isEmpty then
      return (← if force then pure 0 else misuse inv "missing operand" 1)
    let mut status := 0
    for path in p.operands do
      let last := lastComponent path
      if last == "." || last == ".." then
        complain inv ("refusing to remove '.' or '..' directory: skipping " ++ quoteAlways path)
        status := 1
        continue
      let s ← get
      match s.resolve path false with
      | .error e =>
        if !(force && e == .notFound) then
          complain inv ("cannot remove " ++ quoteAlways path ++ ": " ++ e.description)
          status := 1
      | .ok loc =>
        if loc.isEmpty then
          complain inv "it is dangerous to operate recursively on '/'"
          complain inv "use --no-preserve-root to override this failsafe"
          status := 1
          continue
        match s.files.lookup loc with
        | none =>
          if !force then
            complain inv ("cannot remove " ++ quoteAlways path ++ ": No such file or directory")
            status := 1
        | some (.dir _) =>
          if p.has "r" then
            set { s with files := s.files.eraseTree loc }
            let inside := s.links.flatten.filter fun l => loc.isPrefixOf l
            for l in inside do State.unlinkLoc l
            if p.has "v" then emitText ("removed directory " ++ quoteAlways path ++ "\n")
          else if p.has "d" then
            if (s.files.childNames loc).isEmpty then
              set { s with files := s.files.erase loc }
              if p.has "v" then emitText ("removed directory " ++ quoteAlways path ++ "\n")
            else
              complain inv ("cannot remove " ++ quoteAlways path ++ ": Directory not empty")
              status := 1
          else
            complain inv ("cannot remove " ++ quoteAlways path ++ ": Is a directory")
            status := 1
        | some _ =>
          set { s with files := s.files.erase loc }
          State.unlinkLoc loc
          if p.has "v" then emitText ("removed " ++ quoteAlways path ++ "\n")
    closeOutput inv status

/-! ## `cp`, `mv`, `ln` -/

/-- Copy one file, or with `recursive` one tree, to a path; the status of the copy. New files
get the source's mode less the creation mask (its own mode with `keepMode`); a file that
already exists keeps its mode. -/
def copyOne (inv : Invocation) (recursive keepMode noClobber : Bool) (source target : String) :
    ShellM Nat := do
  let s ← get
  let masked (m : Nat) : Nat := if keepMode then m else s.createMode m
  -- a device is copied as the file its contents make
  let found : Except IoError Node := match s.stat source with
    | .ok (.device d) => d.contents.map fun data => Node.file data 0o666
    | other => other
  match found with
  | .error e =>
    complain inv ("cannot stat " ++ quoteAlways source ++ ": " ++ e.description)
    pure 1
  | .ok (.dir mode) =>
    if !recursive then
      complain inv ("-r not specified; omitting directory " ++ quoteAlways source)
      return 1
    match s.resolve source true, s.resolve target true with
    | .ok from_, .ok dest =>
      if from_.isPrefixOf dest then
        complain inv ("cannot copy a directory, " ++ quoteAlways source ++ ", into itself, " ++
          quoteAlways target)
        return 1
      match s.files.lookup dest with
      | some (.dir _) | none =>
        let parentOk := match s.files.lookup dest.dropLast with
          | some (.dir _) => true
          | _ => dest.dropLast.isEmpty
        if !parentOk && (s.files.lookup dest).isNone then
          complain inv ("cannot create directory " ++ quoteAlways target ++ ": No such file or directory")
          return 1
        let start := if (s.files.lookup dest).isSome then s.files
          else s.files.insert dest (.dir (masked mode))
        let copied := (s.files.below from_).foldl (fun t (rel, node) =>
          let node := match node with
            | .file data m => Node.file data (masked m)
            | .dir m => .dir (masked m)
            | other => other
          if noClobber && (t.lookup (dest ++ rel)).isSome then t else t.insert (dest ++ rel) node) start
        set { s with files := copied }
        pure 0
      | some _ =>
        complain inv ("cannot overwrite non-directory " ++ quoteAlways target ++ " with directory " ++
          quoteAlways source)
        pure 1
    | _, _ =>
      complain inv ("cannot create directory " ++ quoteAlways target ++ ": No such file or directory")
      pure 1
  | .ok (.file data mode) =>
    match s.resolve source true, s.resolve target true with
    | .ok from_, .ok dest =>
      if from_ == dest || (s.linked from_).contains dest then
        complain inv (quoteAlways source ++ " and " ++ quoteAlways target ++ " are the same file")
        return 1
      match s.files.lookup dest with
      | some (.file _ m) =>
        if noClobber then return 0
        State.putNode dest (.file data (if keepMode then mode else m))
        pure 0
      | some (.dir _) =>
        complain inv ("cannot overwrite directory " ++ quoteAlways target ++ " with non-directory")
        pure 1
      | some (.link _) => pure 0
      | some (.device d) =>
        match d.accepts with
        | .ok () => pure 0
        | .error e =>
          complain inv ("error writing " ++ quoteAlways target ++ ": " ++ e.description)
          pure 1
      | none =>
        let parentOk := match s.files.lookup dest.dropLast with
          | some (.dir _) => true
          | _ => dest.dropLast.isEmpty
        if parentOk then
          State.putNode dest (.file data (masked mode))
          pure 0
        else
          complain inv ("cannot create regular file " ++ quoteAlways target ++ ": No such file or directory")
          pure 1
    | _, .error e =>
      complain inv ("cannot create regular file " ++ quoteAlways target ++ ": " ++ e.description)
      pure 1
    | .error e, _ =>
      complain inv ("cannot stat " ++ quoteAlways source ++ ": " ++ e.description)
      pure 1
  | .ok (.link _) | .ok (.device _) =>
    complain inv ("cannot stat " ++ quoteAlways source ++ ": No such file or directory")
    pure 1

/-- The sources and the destination of `cp`, `mv` and `ln`: with `-t dir` every operand is a
source; otherwise the last operand is the destination. A missing or wrong destination is
reported. -/
def sourcesAndDest (inv : Invocation) (p : Parsed) : ShellM (Option (List String × String × Bool)) := do
  match p.last? "t" with
  | some dir =>
    let s ← get
    if !s.isDir dir then
      discard (misuse inv ("target directory " ++ quoteAlways dir ++ ": Not a directory") 1)
      return none
    if p.operands.isEmpty then
      discard (misuse inv "missing file operand" 1)
      return none
    pure (some (p.operands, dir, true))
  | none =>
    match p.operands.reverse with
    | [] =>
      discard (misuse inv "missing file operand" 1)
      pure none
    | [only] =>
      discard (misuse inv ("missing destination file operand after " ++ quoteAlways only) 1)
      pure none
    | dest :: rest =>
      let s ← get
      if p.has "T" then
        if rest.length > 1 then
          discard (misuse inv ("extra operand " ++ quoteAlways dest) 1)
          return none
        pure (some (rest.reverse, dest, false))
      else if rest.length > 1 && !s.isDir dest then
        complain inv ("target " ++ quoteAlways dest ++ ": Not a directory")
        pure none
      else pure (some (rest.reverse, dest, s.isDir dest))

/-- The options of `cp`. -/
def cpSpec : Spec :=
  { opts := [flag "a" 'a' "archive", longFlag "attributes-only" "attributes-only",
      { key := "backup", short := some 'b' }, longOnly "backup" "backup" .optional,
      longFlag "copy-contents" "copy-contents", { key := "d", short := some 'd' }, longFlag "debug" "debug",
      flag "f" 'f' "force", flag "i" 'i' "interactive", { key := "H", short := some 'H' },
      flag "l" 'l' "link", flag "L" 'L' "dereference", flag "n" 'n' "no-clobber",
      flag "P" 'P' "no-dereference", { key := "p", short := some 'p' },
      longOnly "preserve" "preserve" .optional, longOnly "no-preserve" "no-preserve" .required,
      longFlag "parents" "parents", flag "r" 'r' "recursive", { key := "r", short := some 'R' },
      longOnly "reflink" "reflink" .optional, longFlag "remove-destination" "remove-destination",
      longOnly "sparse" "sparse" .required, longFlag "strip-trailing-slashes" "strip-trailing-slashes",
      flag "s" 's' "symbolic-link", withArg "S" 'S' "suffix", withArg "t" 't' "target-directory",
      flag "T" 'T' "no-target-directory", { key := "u", short := some 'u', long := some "update", arg := .optional },
      flag "v" 'v' "verbose", flag "x" 'x' "one-file-system",
      { key := "Z", short := some 'Z', long := some "context", arg := .optional }] ++ standard }

/-- `cp [-r] [-p] sources... dest`. -/
def cp (inv : Invocation) : UtilM :=
  withOptions inv cpSpec 1 fun p => do
    let recursive := p.has "r" || p.has "a"
    let keepMode := p.has "p" || p.has "a" || p.has "preserve"
    match ← sourcesAndDest inv p with
    | none => pure 1
    | some (sources, dest, intoDir) =>
      let mut status := 0
      for source in sources do
        let target := if intoDir then below dest (lastComponent source) else dest
        let r ← copyOne inv recursive keepMode (p.has "n") source target
        if r == 0 && p.has "v" then emitText (quoteAlways source ++ " -> " ++ quoteAlways target ++ "\n")
        status := max status r
      closeOutput inv status

/-- The options of `mv`. -/
def mvSpec : Spec :=
  { opts := [{ key := "backup", short := some 'b' }, longOnly "backup" "backup" .optional,
      longFlag "debug" "debug", flag "f" 'f' "force", flag "i" 'i' "interactive", flag "n" 'n' "no-clobber",
      longFlag "strip-trailing-slashes" "strip-trailing-slashes", withArg "S" 'S' "suffix",
      withArg "t" 't' "target-directory", flag "T" 'T' "no-target-directory",
      { key := "u", short := some 'u', long := some "update", arg := .optional }, flag "v" 'v' "verbose",
      { key := "Z", short := some 'Z', long := some "context", arg := .none }] ++ standard }

/-- `mv sources... dest`. -/
def mv (inv : Invocation) : UtilM :=
  withOptions inv mvSpec 1 fun p => do
    match ← sourcesAndDest inv p with
    | none => pure 1
    | some (sources, dest, intoDir) =>
      let mut status := 0
      for source in sources do
        let target := if intoDir then below dest (lastComponent source) else dest
        let s ← get
        match s.resolve source false, s.lstat source with
        | .ok src, .ok node =>
          match s.resolve target false with
          | .error e =>
            complain inv ("cannot move " ++ quoteAlways source ++ " to " ++ quoteAlways target ++ ": " ++
              e.description)
            status := 1
          | .ok dst =>
            if src == dst || (s.linked src).contains dst then
              complain inv (quoteAlways source ++ " and " ++ quoteAlways target ++ " are the same file")
              status := 1
            else if node.isDir && src.isPrefixOf dst then
              complain inv ("cannot move " ++ quoteAlways source ++ " to a subdirectory of itself, " ++
                quoteAlways target)
              status := 1
            else if p.has "n" && (s.files.lookup dst).isSome then pure ()
            else
              match s.files.lookup dst, node.isDir with
              | some (.dir _), false =>
                complain inv ("cannot overwrite directory " ++ quoteAlways target ++ " with non-directory")
                status := 1
              | some (.file _ _), true | some (.link _), true =>
                complain inv ("cannot overwrite non-directory " ++ quoteAlways target ++ " with directory " ++
                  quoteAlways source)
                status := 1
              | _, _ =>
                match s.files.rename s.cwd (State.treePath source) (State.treePath target) with
                | .ok files =>
                  set { s with files }
                  State.unlinkLoc dst
                  State.moveLinks src dst
                  if p.has "v" then
                    emitText ("renamed " ++ quoteAlways source ++ " -> " ++ quoteAlways target ++ "\n")
                | .error e =>
                  complain inv ("cannot move " ++ quoteAlways source ++ " to " ++ quoteAlways target ++ ": " ++
                    e.description)
                  status := 1
        | _, .error e | .error e, _ =>
          complain inv ("cannot stat " ++ quoteAlways source ++ ": " ++ e.description)
          status := 1
      closeOutput inv status

/-- `ln [-s] [-f] target [name]`, or several targets into a directory. -/
def ln (inv : Invocation) : UtilM :=
  withOptions inv { opts := [{ key := "backup", short := some 'b' }, longOnly "backup" "backup" .optional,
      flag "d" 'd' "directory", { key := "d", short := some 'F' }, flag "f" 'f' "force",
      flag "i" 'i' "interactive", flag "L" 'L' "logical", flag "n" 'n' "no-dereference",
      flag "P" 'P' "physical", flag "r" 'r' "relative", flag "s" 's' "symbolic", withArg "S" 'S' "suffix",
      withArg "t" 't' "target-directory", flag "T" 'T' "no-target-directory", flag "v" 'v' "verbose"] ++
      standard } 1 fun p => do
    let symbolic := p.has "s"
    let pairs ← match p.operands, p.last? "t" with
      | [target], none => pure (some [(target, lastComponent target)])
      | _, _ => do
        match ← sourcesAndDest inv p with
        | none => pure none
        | some (sources, dest, intoDir) =>
          pure (some (sources.map fun src => (src, if intoDir then below dest (lastComponent src) else dest)))
    match pairs with
    | none => pure 1
    | some pairs =>
      let mut status := 0
      for (target, name) in pairs do
        let s ← get
        let failure := if symbolic then "failed to create symbolic link " ++ quoteAlways name
          else "failed to create hard link " ++ quoteAlways name
        let source : Except IoError (Option Location) :=
          if symbolic then .ok none
          else match s.resolve target (p.has "L") with
            | .ok loc => if (s.files.lookup loc).isSome then .ok (some loc) else .error .notFound
            | .error e => .error e
        match source with
        | .error e =>
          complain inv ("failed to access " ++ quoteAlways target ++ ": " ++ e.description)
          status := 1
        | .ok src =>
          if let some loc := src then
            if (s.files.lookup loc).any Node.isDir then
              complain inv (quoteAlways target ++ ": hard link not allowed for directory")
              status := 1
              continue
          -- with `-f` an existing name goes first
          match s.resolve name false with
          | .error e =>
            complain inv (failure ++ ": " ++ e.description)
            status := 1
          | .ok at_ =>
            let existing := s.files.lookup at_
            if existing.isSome && !p.has "f" then
              complain inv (failure ++ ": File exists")
              status := 1
            else if existing.any Node.isDir then
              complain inv (failure ++ ": File exists")
              status := 1
            else if src == some at_ then
              complain inv (quoteAlways target ++ " and " ++ quoteAlways name ++ " are the same file")
              status := 1
            else
              let parentOk := at_.dropLast.isEmpty || (s.files.lookup at_.dropLast).any Node.isDir
              if !parentOk then
                complain inv (failure ++ ": No such file or directory")
                status := 1
              else
                if existing.isSome then State.unlinkLoc at_
                match src with
                | none => set { s with files := s.files.insert at_ (.link target) }
                | some loc =>
                  match s.files.lookup loc with
                  | some node =>
                    set { s with files := s.files.insert at_ node }
                    State.addLink loc at_
                  | none => pure ()
                if p.has "v" then
                  emitText (quoteAlways name ++ (if symbolic then " -> " else " => ") ++ quoteAlways target ++ "\n")
      closeOutput inv status

/-! ## `tee`, `chmod` -/

/-- `tee [-a] files...`: standard input to standard output and to each file. -/
def tee (inv : Invocation) : UtilM :=
  withOptions inv { opts := [flag "a" 'a' "append", flag "i" 'i' "ignore-interrupts",
      { key := "p", short := some 'p', long := some "output-error", arg := .optional }] ++ standard } 1 fun p => do
    let input ← (do
      match ← State.readAll with
      | some bs => pure bs
      | none => pure [])
    let data := ByteArray.mk input.toArray
    let mut status := 0
    for path in p.operands do
      let s ← get
      match s.resolve path true with
      | .ok loc =>
        match s.files.lookup loc with
        | some (.file old m) =>
          State.putNode loc (.file (if p.has "a" then old ++ data else data) m)
        | some _ =>
          complain inv (quoteName path ++ ": Is a directory")
          status := 1
        | none =>
          if loc.dropLast.isEmpty || (s.files.lookup loc.dropLast).any Node.isDir then
            State.putNode loc (.file data (s.createMode 0o666))
          else
            complain inv (quoteName path ++ ": No such file or directory")
            status := 1
      | .error e =>
        complain inv (quoteName path ++ ": " ++ e.description)
        status := 1
    emit input
    closeOutput inv status

/-- Whether an argument of `chmod` is a mode that starts with `-`, like `-w`. -/
def modeLike (a : String) : Bool :=
  a.length > 1 && a.startsWith "-" && (a.toList.drop 1).all fun c => "rwxXstugoa=+-,0123456789".toList.contains c

/-- `chmod [-R] mode paths...`. -/
def chmod (inv : Invocation) : UtilM :=
  -- a mode like `-w` is an operand
  let args := inv.args.map fun a => if modeLike a then "\x01" ++ a else a
  withOptions { inv with args } { opts := [flag "c" 'c' "changes", flag "f" 'f' "silent", longFlag "f" "quiet",
      flag "v" 'v' "verbose", longFlag "no-preserve-root" "no-preserve-root",
      longFlag "preserve-root" "preserve-root", longOnly "reference" "reference" .required,
      flag "R" 'R' "recursive"] ++ standard } 1 fun p => do
    let operands := p.operands.map fun a => if a.startsWith "\x01" then String.ofList (a.toList.drop 1) else a
    match operands with
    | [] => misuse inv "missing operand" 1
    | [m] => misuse inv ("missing operand after " ++ quoteAlways m) 1
    | spec :: paths =>
      let s ← get
      if (readMode spec 0 false s.umask).isNone then
        return (← misuse inv ("invalid mode: " ++ quoteAlways spec) 1)
      let mut status := 0
      for path in paths do
        let s ← get
        match s.resolve path true with
        | .error e =>
          if !p.has "f" then complain inv ("cannot access " ++ quoteAlways path ++ ": " ++ e.description)
          status := 1
        | .ok loc =>
          match s.files.lookup loc with
          | none =>
            if !p.has "f" then complain inv ("cannot access " ++ quoteAlways path ++ ": No such file or directory")
            status := 1
          | some node =>
            let targets := if p.has "R" && node.isDir then
                loc :: ((s.files.below loc).filterMap fun (rel, n) => match n with
                  | .link _ => none
                  | _ => some (loc ++ rel))
              else [loc]
            for l in targets do
              let s ← get
              match s.files.lookup l with
              | some (.file data m) =>
                State.putNode l (.file data ((readMode spec m false s.umask).getD m))
              | some (.dir m) =>
                set { s with files := s.files.insert l (.dir ((readMode spec m true s.umask).getD m)) }
              | _ => pure ()
      closeOutput inv status

/-! ## `ls` -/

/-- The options of `ls`. -/
def lsSpec : Spec :=
  { opts := [flag "a" 'a' "all", flag "A" 'A' "almost-all", longFlag "author" "author",
      flag "b" 'b' "escape", longOnly "block-size" "block-size" .required, flag "B" 'B' "ignore-backups",
      { key := "c", short := some 'c' }, { key := "C", short := some 'C' },
      longOnly "color" "color" .optional, flag "d" 'd' "directory", flag "D" 'D' "dired",
      { key := "f", short := some 'f' }, { key := "F", short := some 'F', long := some "classify", arg := .optional },
      longFlag "file-type" "file-type", longOnly "format" "format" .required, longFlag "full-time" "full-time",
      { key := "g", short := some 'g' }, longFlag "group-directories-first" "group-directories-first",
      flag "G" 'G' "no-group", flag "h" 'h' "human-readable", longFlag "si" "si",
      flag "H" 'H' "dereference-command-line", longFlag "H" "dereference-command-line-symlink-to-dir",
      longOnly "hide" "hide" .required, longOnly "hyperlink" "hyperlink" .optional,
      longOnly "indicator-style" "indicator-style" .required, flag "i" 'i' "inode",
      withArg "I" 'I' "ignore", flag "k" 'k' "kibibytes", { key := "l", short := some 'l' },
      flag "L" 'L' "dereference", { key := "m", short := some 'm' }, flag "N" 'N' "literal",
      flag "n" 'n' "numeric-uid-gid", { key := "o", short := some 'o' }, { key := "p", short := some 'p' },
      flag "q" 'q' "hide-control-chars", longFlag "show-control-chars" "show-control-chars",
      flag "Q" 'Q' "quote-name", longOnly "quoting-style" "quoting-style" .required, flag "r" 'r' "reverse",
      flag "R" 'R' "recursive", flag "s" 's' "size", { key := "S", short := some 'S' },
      longOnly "sort" "sort" .required, longOnly "time" "time" .required,
      longOnly "time-style" "time-style" .required, { key := "t", short := some 't' },
      withArg "T" 'T' "tabsize", { key := "u", short := some 'u' }, { key := "U", short := some 'U' },
      { key := "v", short := some 'v' }, withArg "w" 'w' "width", { key := "x", short := some 'x' },
      { key := "X", short := some 'X' }, flag "Z" 'Z' "context", longFlag "zero" "zero",
      { key := "one", short := some '1' }] ++ standard }

/-- How `ls` orders and marks names. -/
structure LsPlan where
  all : Bool
  almostAll : Bool
  reverse : Bool
  bySize : Bool
  unsorted : Bool
  slash : Bool
  classify : Bool

/-- The entries of a directory as `ls` lists them, with their nodes. -/
def LsPlan.entries (plan : LsPlan) (s : State) (dir : String) : List (String × Option Node) :=
  let names := (s.readDir dir).toOption.getD []
  let names := if plan.all then [".", ".."] ++ names
    else if plan.almostAll then names else names.filter (fun n => !n.startsWith ".")
  names.map fun n => (n, (s.lstat (below dir n)).toOption)

/-- Order names as `ls` does: by their bytes (or by size, largest first), reversed with `-r`. -/
def LsPlan.order (plan : LsPlan) (xs : List (String × Option Node)) : List (String × Option Node) :=
  if plan.unsorted then xs
  else
    let size (n : Option Node) : Nat := match n with
      | some (.file d _) => d.size
      | some (.link t) => t.length
      | _ => 4096
    let sorted := xs.mergeSort fun a b =>
      if plan.bySize && size a.2 != size b.2 then size a.2 > size b.2
      else decide (Octets.toBytes a.1 ≤ Octets.toBytes b.1) || a.1 == b.1
    if plan.reverse then sorted.reverse else sorted

/-- A name with the mark `-p` or `-F` adds. -/
def LsPlan.mark (plan : LsPlan) (name : String) (node : Option Node) (followed : Option Node) : String :=
  match node, followed with
  | some (.dir _), _ => if plan.slash || plan.classify then name ++ "/" else name
  | some (.link _), _ => if plan.classify then name ++ "@" else name
  | some (.file _ m), _ => if plan.classify && m &&& 0o111 != 0 then name ++ "*" else name
  | _, _ => name

/-- One entry of a long listing: the mode letters, the link count, the size (a device's
numbers), and the name with a link's target. -/
structure LongRow where
  mode : String
  links : Nat
  size : String
  name : String

/-- The long-listing row of an entry at a path, shown under a name. -/
def longRow (s : State) (path name : String) (node : Node) : LongRow :=
  let links := match node with
    | .dir _ =>
      let subdirs := ((s.readDir path).toOption.getD []).filter fun e =>
        (s.lstat (below path e)).toOption.any Node.isDir
      2 + subdirs.length
    | _ => match s.resolve path false with
      | .ok loc => max 1 (s.linked loc).length
      | .error _ => 1
  let size := match node with
    | .file d _ => toString d.size
    | .dir _ => "4096"
    | .link t => toString t.utf8ByteSize
    | .device d => toString d.numbers.1 ++ ", " ++ toString d.numbers.2
  let shown := match node with
    | .link t => name ++ " -> " ++ t
    | _ => name
  { mode := modeLetters node, links, size, name := shown }

/-- The 1024-byte blocks an entry takes on the disk. -/
def kilobytes : Option Node → Nat
  | some (.file d _) => (d.size + 4095) / 4096 * 4
  | some (.dir _) => 4
  | _ => 0

/-- Long-listing lines with their columns aligned: link counts and sizes to the right, then the
owner and group (either left out when `none`), the time of the last change and the name. -/
def longLines (rows : List LongRow) (owner group : Option String) : List String :=
  let linkWidth := (rows.map fun r => (toString r.links).length).foldl max 0
  let sizeWidth := (rows.map (·.size.length)).foldl max 0
  let pad (w : Nat) (t : String) : String := String.ofList (List.replicate (w - t.length) ' ') ++ t
  rows.map fun r =>
    r.mode ++ " " ++ pad linkWidth (toString r.links) ++ " " ++
      (match owner with
       | some o => o ++ " "
       | none => "") ++
      (match group with
       | some g => g ++ " "
       | none => "") ++
      pad sizeWidth r.size ++ " Jan  1 00:00 " ++ r.name

/-- `ls`: names one per line, files named on the command line first, then each directory's
entries, under a heading when there are several operands or `-R`. With `-l` (`-n`, `-g`, `-o`)
each entry is a long line, and a directory's entries follow the blocks they take. -/
def ls (inv : Invocation) : UtilM :=
  withOptions inv lsSpec 2 fun p => do
    let plan : LsPlan :=
      { all := p.has "a" || p.has "f", almostAll := p.has "A", reverse := p.has "r",
        bySize := p.has "S", unsorted := p.has "U" || p.has "f", slash := p.has "p",
        classify := p.has "F" }
    let operands := if p.operands.isEmpty then ["."] else p.operands
    let long := p.has "l" || p.has "n" || p.has "g" || p.has "o"
    let owner := if p.has "g" then none else some (if p.has "n" then "0" else "root")
    let group := if p.has "o" then none else some (if p.has "n" then "0" else "root")
    let s ← get
    -- the lines of some entries, each found at the path `at_` gives for its name
    let render (at_ : String → String) (entries : List (String × Option Node)) : String :=
      if long then
        let rows := entries.filterMap fun (n, node) =>
          node.map fun nd => longRow s (at_ n) (plan.mark n node none) nd
        String.join ((longLines rows owner group).map (· ++ "\n"))
      else String.join (entries.map fun (n, node) => plan.mark n node none ++ "\n")
    let mut status := 0
    let mut files : List (String × Option Node) := []
    let mut dirs : List String := []
    for o in operands do
      match s.stat o with
      | .error e =>
        match s.lstat o with
        | .ok node => files := files ++ [(o, some node)]
        | .error _ =>
          complain inv ("cannot access " ++ quoteAlways o ++ ": " ++ e.description)
          status := 2
      | .ok node =>
        let isLink := match s.lstat o with
          | .ok (.link _) => true
          | _ => false
        if node.isDir && !p.has "d" && !(long && isLink && !o.endsWith "/") then dirs := dirs ++ [o]
        else files := files ++ [(o, (s.lstat o).toOption)]
    let fileText := render id (plan.order files)
    let dirsOrdered := (plan.order (dirs.map fun d => (d, none))).map (·.1)
    let headings := operands.length > 1 || p.has "R"
    -- a directory's block, and with `-R` those of the directories below it
    let rec block : Nat → String → List String
      | 0, _ => []
      | fuel + 1, d =>
        let entries := plan.order (plan.entries s d)
        let total := if long then
            "total " ++ toString ((entries.map fun (_, node) => kilobytes node).foldl (· + ·) 0) ++ "\n"
          else ""
        let body := total ++ render (below d) entries
        let here := (if headings then d ++ ":\n" else "") ++ body
        if p.has "R" then
          let subdirs := entries.filter fun (n, node) => n != "." && n != ".." && (node.any Node.isDir)
          here :: subdirs.flatMap fun (n, _) => block fuel (below d n)
        else [here]
    let dirBlocks := dirsOrdered.flatMap (block 64)
    let blocks := (if fileText.isEmpty then [] else [fileText]) ++ dirBlocks
    emitText ("\n".intercalate blocks)
    closeOutput inv status

/-! ## Names -/

/-- The last component of a path as `basename` gives it, a suffix removed when it is not the
whole name. -/
def baseName (p : String) (suffix : String) : String :=
  let base := lastComponent p
  if !suffix.isEmpty && base.endsWith suffix && base != suffix then
    String.ofList (base.toList.take (base.length - suffix.length))
  else base

/-- `basename name [suffix]`, or `basename -a names...`. -/
def basename (inv : Invocation) : UtilM :=
  withOptions inv { opts := [flag "a" 'a' "multiple", withArg "s" 's' "suffix", flag "z" 'z' "zero"] ++
      standard } 1 fun p => do
    let ending := if p.has "z" then "\x00" else "\n"
    match p.operands with
    | [] => misuse inv "missing operand" 1
    | names =>
      if p.has "a" || p.has "s" then
        for n in names do emitText (baseName n ((p.last? "s").getD "") ++ ending)
        closeOutput inv 0
      else
        match names with
        | [n] =>
          emitText (baseName n "" ++ ending)
          closeOutput inv 0
        | [n, suffix] =>
          emitText (baseName n suffix ++ ending)
          closeOutput inv 0
        | _ :: _ :: extra :: _ => misuse inv ("extra operand " ++ quoteAlways extra) 1
        | [] => pure 1

/-- `dirname names...`. -/
def dirname (inv : Invocation) : UtilM :=
  withOptions inv { opts := [flag "z" 'z' "zero"] ++ standard } 1 fun p => do
    if p.operands.isEmpty then return (← misuse inv "missing operand" 1)
    for n in p.operands do emitText (Path.dirname n ++ (if p.has "z" then "\x00" else "\n"))
    closeOutput inv 0

/-- The absolute path a path leads to, every link followed; with `lastMayBeMissing` the last
component need not exist. -/
def canonical (s : State) (p : String) (lastMayBeMissing : Bool) : Option String :=
  match s.resolve p true with
  | .ok loc =>
    if (s.files.lookup loc).isSome || lastMayBeMissing then some (State.locationText loc) else none
  | .error _ => none

/-- `readlink [-f | -e | -m] [-n] paths...`: where links point, or canonical paths. -/
def readlink (inv : Invocation) : UtilM :=
  withOptions inv { opts := [flag "f" 'f' "canonicalize", flag "e" 'e' "canonicalize-existing",
      flag "m" 'm' "canonicalize-missing", flag "n" 'n' "no-newline", flag "q" 'q' "quiet",
      flag "s" 's' "silent", flag "v" 'v' "verbose", flag "z" 'z' "zero"] ++ standard } 1 fun p => do
    if p.operands.isEmpty then return (← misuse inv "missing operand" 1)
    let s ← get
    let mut status := 0
    let ending := if p.has "n" && p.operands.length == 1 then "" else if p.has "z" then "\x00" else "\n"
    for path in p.operands do
      let result := if p.has "f" || p.has "e" || p.has "m" then canonical s path (p.has "f" || p.has "m")
        else match s.lstat path with
          | .ok (.link t) => some t
          | _ => none
      match result with
      | some t => emitText (t ++ ending)
      | none => status := 1
    closeOutput inv status

/-- `realpath paths...`: the canonical absolute paths. -/
def realpath (inv : Invocation) : UtilM :=
  withOptions inv { opts := [flag "e" 'e' "canonicalize-existing", flag "m" 'm' "canonicalize-missing",
      flag "L" 'L' "logical", flag "P" 'P' "physical", flag "q" 'q' "quiet", longOnly "relative-to" "relative-to" .required,
      longOnly "relative-base" "relative-base" .required, flag "s" 's' "strip", longFlag "s" "no-symlinks",
      flag "z" 'z' "zero"] ++ standard } 1 fun p => do
    if p.operands.isEmpty then return (← misuse inv "missing operand" 1)
    let s ← get
    let mut status := 0
    for path in p.operands do
      match canonical s path (!p.has "e") with
      | some t => emitText (t ++ "\n")
      | none =>
        complain inv (quoteName path ++ ": No such file or directory")
        status := 1
    closeOutput inv status

end Utility

end HostAgent.Shell
