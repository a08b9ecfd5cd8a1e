import HostAgent.Shell.Utility.Core
import HostAgent.Shell.Pattern
import HostAgent.Http.Encoding

/-!
# `HostAgent.Shell.Utility.Host` — utilities that describe the host and its files

* `uname` names the system (`Linux` on `x86_64`), `hostname` the host (the first line of the
  host name file), `id` and `whoami` the user the scripts run as: `root`, user and group 0;
* `base64` encodes with `Http.base64` (lines of 76 characters, `-w` to change that) and
  decodes (`-d`);
* `stat` describes files, with `-c` or `--printf` formats (`%n %s %a %A %F %U %G %u %g %h %N`
  and the others a file tree can answer);
* `find` walks trees from its starting points (children in name order, a directory before its
  contents), testing `-name`, `-iname`, `-path`, `-type`, `-empty`, `-size`, `-perm`,
  combined with `!`, `-a`, `-o` and parentheses, and acting with `-print`, `-print0`,
  `-printf` and `-prune`; with no action the paths that pass are printed.
-/

namespace HostAgent.Shell

open HostAgent.Host

namespace Utility

open Getopt

/-! ## The system and its user -/

/-- The host's name: the first line of the kernel's host name file or of `/etc/hostname`. -/
def hostNameOf (s : State) : String :=
  let firstLine (p : String) : Option String :=
    match s.readFile p with
    | .ok data =>
      let line := ((Octets.ofByteArray data).splitOn "\n").headD ""
      let t := String.ofList ((line.toList.dropWhile (· == ' ')).reverse.dropWhile (· == ' ')).reverse
      if t.isEmpty then none else some t
    | .error _ => none
  ((firstLine "/proc/sys/kernel/hostname").orElse fun _ => firstLine "/etc/hostname").getD "localhost"

/-- The options of `uname`. -/
def unameSpec : Spec :=
  { opts := [flag "a" 'a' "all", flag "s" 's' "kernel-name", flag "n" 'n' "nodename",
      flag "r" 'r' "kernel-release", flag "v" 'v' "kernel-version", flag "m" 'm' "machine",
      flag "p" 'p' "processor", flag "i" 'i' "hardware-platform",
      flag "o" 'o' "operating-system"] ++ standard }

/-- `uname`: the asked parts of the system's name in their fixed order; `-a` leaves out the
processor and platform, which are unknown. -/
def uname (inv : Invocation) : UtilM :=
  withOptions inv unameSpec 1 fun p => do
    if let a :: _ := p.operands then
      return (← misuse inv ("extra operand " ++ quoteAlways a) 1)
    let s ← get
    let parts : List (String × String) :=
      [("s", "Linux"), ("n", hostNameOf s), ("r", "6.1.0"), ("v", "#1 SMP PREEMPT_DYNAMIC"),
        ("m", "x86_64"), ("p", "unknown"), ("i", "unknown"), ("o", "GNU/Linux")]
    let all := p.has "a"
    let asked := parts.filter fun (k, v) =>
      (all && !(v == "unknown" && (k == "p" || k == "i"))) || p.has k
    let asked := if asked.isEmpty then [("s", "Linux")] else asked
    emitText (" ".intercalate (asked.map (·.2)) ++ "\n")
    closeOutput inv 0

/-- The options of `hostname`. -/
def hostnameSpec : Spec :=
  { opts := [flag "s" 's' "short", flag "f" 'f' "fqdn", flag "f" 'f' "long",
      flag "d" 'd' "domain", flag "i" 'i' "ip-address"] ++ standard }

/-- `hostname`: the host's name (`-s` up to the first dot); setting it is refused. -/
def hostname (inv : Invocation) : UtilM :=
  withOptions inv hostnameSpec 1 fun p => do
    if !p.operands.isEmpty then
      complain inv "you must be root to change the host name"
      return 1
    let name := hostNameOf (← get)
    let shown := if p.has "s" then (name.splitOn ".").headD name
      else if p.has "d" then String.intercalate "." ((name.splitOn ".").drop 1)
      else name
    emitText (shown ++ "\n")
    closeOutput inv 0

/-- The options of `id`. -/
def idSpec : Spec :=
  { opts := [flag "u" 'u' "user", flag "g" 'g' "group", flag "G" 'G' "groups",
      flag "n" 'n' "name", flag "r" 'r' "real", flag "z" 'z' "zero", { key := "a", short := some 'a' },
      flag "Z" 'Z' "context"] ++ standard }

/-- `id [user]`: the user's and groups' numbers and names; only `root` (or `0`) is known. -/
def userIds (inv : Invocation) : UtilM :=
  withOptions inv idSpec 1 fun p => do
    match p.operands with
    | _ :: b :: _ => misuse inv ("extra operand " ++ quoteAlways b) 1
    | user =>
      if let some u := user.head? then
        if u != "root" && u != "0" then
          complain inv (quoteAlways u ++ ": no such user")
          return 1
      let one := ["u", "g", "G"].filter p.has
      if one.length > 1 then
        return (← misuse inv "cannot print \"only\" of more than one choice" 1)
      if one.isEmpty && (p.has "n" || p.has "r") then
        return (← misuse inv "cannot print only names or real IDs in default format" 1)
      let text := if one.isEmpty then "uid=0(root) gid=0(root) groups=0(root)"
        else if p.has "n" then "root" else "0"
      emitText (text ++ (if p.has "z" then "\x00" else "\n"))
      closeOutput inv 0

/-- `whoami`: the user's name. -/
def whoami (inv : Invocation) : UtilM :=
  withOptions inv { opts := standard } 1 fun p => do
    match p.operands with
    | a :: _ => misuse inv ("extra operand " ++ quoteAlways a) 1
    | [] =>
      emitText "root\n"
      closeOutput inv 0

/-! ## `base64` -/

/-- The value of an encoding character. -/
def base64Value? (c : UInt8) : Option Nat :=
  if 65 ≤ c && c ≤ 90 then some (c.toNat - 65)
  else if 97 ≤ c && c ≤ 122 then some (c.toNat - 97 + 26)
  else if 48 ≤ c && c ≤ 57 then some (c.toNat - 48 + 52)
  else if c == 43 then some 62
  else if c == 47 then some 63
  else none

/-- Decode characters: newlines are skipped (and, `ignoreGarbage`, everything outside the
encoding); the bytes decoded, and whether the input was valid. -/
def base64Decode (ignoreGarbage : Bool) (bs : List UInt8) : List UInt8 × Bool :=
  let kept := bs.filter fun b => b != 10 && (!ignoreGarbage || b == 61 || (base64Value? b).isSome)
  -- the groups of four, the last possibly padded
  let rec go : Nat → List UInt8 → List UInt8 → List UInt8 × Bool
    | 0, _, acc => (acc.reverse, true)
    | _, [], acc => (acc.reverse, true)
    | fuel + 1, cs, acc =>
      let group := cs.take 4
      let rest := cs.drop 4
      let values := group.map base64Value?
      match values with
      | [some a, some b, some c, some d] =>
        let n := a * 262144 + b * 4096 + c * 64 + d
        go fuel rest (UInt8.ofNat (n % 256) :: UInt8.ofNat (n / 256 % 256) :: UInt8.ofNat (n / 65536) :: acc)
      | [some a, some b, some c, none] =>
        let n := a * 262144 + b * 4096 + c * 64
        let acc := UInt8.ofNat (n / 256 % 256) :: UInt8.ofNat (n / 65536) :: acc
        if group.getLast? == some 61 && rest.isEmpty then (acc.reverse, true) else (acc.reverse, false)
      | [some a, some b, none, none] =>
        let n := a * 262144 + b * 4096
        let acc := UInt8.ofNat (n / 65536) :: acc
        if group.drop 2 == [61, 61] && rest.isEmpty then (acc.reverse, true) else (acc.reverse, false)
      | [some a, some b, some c] =>
        let n := a * 262144 + b * 4096 + c * 64
        (( UInt8.ofNat (n / 256 % 256) :: UInt8.ofNat (n / 65536) :: acc).reverse, false)
      | [some a, some b] =>
        let n := a * 262144 + b * 4096
        ((UInt8.ofNat (n / 65536) :: acc).reverse, false)
      | _ => (acc.reverse, false)
  go (kept.length + 1) kept []

/-- The options of `base64`. -/
def base64Spec : Spec :=
  { opts := [flag "d" 'd' "decode", flag "i" 'i' "ignore-garbage", withArg "w" 'w' "wrap"] ++ standard }

/-- `base64 [-d] [-i] [-w cols] [file]`. -/
def base64 (inv : Invocation) : UtilM :=
  withOptions inv base64Spec 1 fun p => do
    let wrap ← match p.last? "w" with
      | none => pure (some 76)
      | some w => match count? w with
        | some n => pure (some n)
        | none => do
          complain inv ("invalid wrap size: " ++ quoteAlways w)
          return 1
    match p.operands with
    | _ :: b :: _ => misuse inv ("extra operand " ++ quoteAlways b) 1
    | names =>
      let name := names.headD "-"
      match ← readSource name with
      | .error e =>
        complain inv (plainReport name e)
        pure 1
      | .ok bs =>
        if p.has "d" then
          let (out, ok) := base64Decode (p.has "i") bs
          emit out
          if !ok then
            complain inv "invalid input"
            return 1
          closeOutput inv 0
        else
          let text := (Http.base64 bs).toList
          let width := wrap.getD 0
          let rec lines : Nat → List Char → List Char → List Char
            | 0, _, acc => acc
            | _, [], acc => acc
            | fuel + 1, cs, acc => lines fuel (cs.drop width) (acc ++ cs.take width ++ ['\n'])
          let out := if width == 0 then text
            else lines (text.length + 1) text []
          emitText (String.ofList out)
          closeOutput inv 0

/-! ## `stat` -/

/-- The size of a node as `stat` gives it. -/
def nodeSize : Node → Nat
  | .file d _ => d.size
  | .dir _ => 4096
  | .link t => t.utf8ByteSize
  | .device _ => 0

/-- The name of a node's type. -/
def typeName : Node → String
  | .file d _ => if d.size == 0 then "regular empty file" else "regular file"
  | .dir _ => "directory"
  | .link _ => "symbolic link"
  | .device _ => "character special file"

/-- A number in octal. -/
def octal (n : Nat) : String := String.ofList (Nat.toDigits 8 n)

/-- A number in hexadecimal. -/
def hexText (n : Nat) : String := String.ofList (Nat.toDigits 16 n)

/-- The text of one `stat` directive for a file. -/
def statDirective (s : State) (name : String) (node : Node) (c : Char) : Option String :=
  let size := nodeSize node
  let blocks := match node with
    | .file d _ => (d.size + 4095) / 4096 * 8
    | .dir _ => 8
    | .link _ | .device _ => 0
  match c with
  | 'n' => some name
  | 'N' => some (match node with
    | .link t => "'" ++ name ++ "' -> '" ++ t ++ "'"
    | _ => "'" ++ name ++ "'")
  | 's' => some (toString size)
  | 'a' => some (octal (modeBits node &&& 0o7777))
  | 'A' => some (modeLetters node)
  | 'f' => some (hexText ((match node with
    | .file _ _ => 0o100000
    | .dir _ => 0o40000
    | .link _ => 0o120000
    | .device _ => 0o20000) + (modeBits node &&& 0o7777)))
  | 'F' => some (typeName node)
  | 'U' | 'G' => some "root"
  | 'u' | 'g' => some "0"
  | 'h' => some (match node with
    | .dir _ =>
      let subdirs := ((s.readDir name).toOption.getD []).filter fun e =>
        (s.lstat (if name.endsWith "/" then name ++ e else name ++ "/" ++ e)).toOption.any Node.isDir
      toString (2 + subdirs.length)
    | _ => "1")
  | 'b' => some (toString blocks)
  | 'B' => some "512"
  | 'o' => some "4096"
  | 'm' => some "/"
  | 'd' => some "2049"
  | 'D' => some "801"
  | 't' => some (match node with
    | .device d => hexText d.numbers.1
    | _ => "0")
  | 'T' => some (match node with
    | .device d => hexText d.numbers.2
    | _ => "0")
  | 'i' => some "1"
  | 'w' | 'W' => some "-"
  | 'x' | 'y' | 'z' => some "2026-01-01 00:00:00.000000000 +0000"
  | 'X' | 'Y' | 'Z' => some "1767225600"
  | 'C' => some "?"
  | _ => none

/-- Apply a `stat` format to a file; `escapes` reads backslash escapes too (`--printf`). -/
def statFormat (s : State) (name : String) (node : Node) (format : String) (escapes : Bool) : String :=
  let rec go : Nat → List Char → List Char → List Char
    | 0, _, acc => acc.reverse
    | _, [], acc => acc.reverse
    | fuel + 1, '%' :: '%' :: rest, acc => go fuel rest ('%' :: acc)
    | fuel + 1, '%' :: c :: rest, acc =>
      match statDirective s name node c with
      | some t => go fuel rest (t.toList.reverse ++ acc)
      | none => go fuel rest (c :: '?' :: acc)
    | fuel + 1, '\\' :: c :: rest, acc =>
      if !escapes then go fuel (c :: rest) ('\\' :: acc)
      else
        let e := match c with
          | 'n' => '\n'
          | 't' => '\t'
          | 'r' => '\r'
          | '\\' => '\\'
          | '"' => '"'
          | 'a' => Char.ofNat 7
          | 'b' => Char.ofNat 8
          | 'f' => Char.ofNat 12
          | 'v' => Char.ofNat 11
          | other => other
        go fuel rest (e :: acc)
    | fuel + 1, c :: rest, acc => go fuel rest (c :: acc)
  String.ofList (go (format.length + 1) format.toList [])

/-- The options of `stat`. -/
def statSpec : Spec :=
  { opts := [flag "L" 'L' "dereference", flag "f" 'f' "file-system", withArg "c" 'c' "format",
      longOnly "printf" "printf" .required, flag "t" 't' "terse", longOnly "cached" "cached" .required] ++ standard }

/-- `stat [-L] [-c format | --printf format] file...`. -/
def stat (inv : Invocation) : UtilM :=
  withOptions inv statSpec 1 fun p => do
    if p.operands.isEmpty then return (← misuse inv "missing operand" 1)
    let s ← get
    let mut status := 0
    for name in p.operands do
      let found := if p.has "L" then s.stat name else s.lstat name
      match found with
      | .error e =>
        complain inv ("cannot statx " ++ quoteAlways name ++ ": " ++ e.description)
        status := 1
      | .ok node =>
        let text := match p.last? "printf", p.last? "c" with
          | some f, _ => statFormat s name node f true
          | none, some f => statFormat s name node f false ++ "\n"
          | none, none =>
            if p.has "t" then statFormat s name node "%n %s %b %f %u %g %D %i %h %t %T %X %Y %Z %W %o" false ++ "\n"
            else
              statFormat s name node ("  File: %N\n  Size: %s\tBlocks: %b\tIO Block: %o   %F\n" ++
                "Device: 801h/2049d\tInode: %i\tLinks: %h\n" ++
                "Access: (%04a/%A)  Uid: (    0/    root)   Gid: (    0/    root)\n" ++
                "Access: %x\nModify: %y\nChange: %z\n Birth: -") false ++ "\n"
        emitText text
    closeOutput inv status

/-! ## `find` -/

/-- A test or action of `find`. -/
inductive FindExpr where
  | name (pattern : String) (icase : Bool)
  | path (pattern : String) (icase : Bool)
  | type (kind : Char)
  | empty
  /-- `-size`: a comparison (`-1` smaller, `0` equal, `1` larger), a count, the unit. -/
  | size (cmp : Int) (count : Nat) (unit : Nat)
  /-- `-perm`: exactly, all of (`-`), or any of (`/`) some bits. -/
  | perm (how : Char) (bits : Nat)
  | print
  | print0
  | printf (format : String)
  | prune
  | quit
  | yes
  | no
  | not (e : FindExpr)
  | and (a b : FindExpr)
  | or (a b : FindExpr)

/-- Whether an expression has an action, so that passing paths are not printed besides. -/
def FindExpr.acts : FindExpr → Bool
  | .print | .print0 | .printf _ | .quit => true
  | .not e => e.acts
  | .and a b | .or a b => a.acts || b.acts
  | _ => false

/-- The options that apply to the whole walk. -/
structure FindLimits where
  maxDepth : Option Nat := none
  minDepth : Nat := 0
  follow : Bool := false

/-- Reading an expression: the words left and the limits seen. -/
abbrev FindParse := StateT (List String × FindLimits) (Except String)

/-- The next word. -/
def findPeek : FindParse (Option String) := do pure (← get).1.head?

/-- Take the next word. -/
def findTake : FindParse (Option String) := do
  let (ws, l) ← get
  match ws with
  | w :: rest =>
    set (rest, l)
    pure (some w)
  | [] => pure none

/-- The argument of a test. -/
def findArg (test : String) : FindParse String := do
  match ← findTake with
  | some a => pure a
  | none => throw ("missing argument to `" ++ test ++ "'")

/-- A `find` number with an optional sign. -/
def signedCount (a : String) : Option (Int × Nat × String) :=
  let (cmp, rest) := match a.toList with
    | '+' :: r => ((1 : Int), r)
    | '-' :: r => (-1, r)
    | r => (0, r)
  let digits := rest.takeWhile Char.isDigit
  if digits.isEmpty then none
  else some (cmp, digits.foldl (fun v c => 10 * v + (c.toNat - 48)) 0, String.ofList (rest.drop digits.length))

mutual

/-- Alternatives joined by `-o`. -/
def findOr : Nat → FindParse FindExpr
  | 0 => pure .yes
  | fuel + 1 => do
    let a ← findAnd fuel
    match ← findPeek with
    | some "-o" | some "-or" =>
      discard findTake
      pure (.or a (← findOr fuel))
    | _ => pure a

/-- Tests joined by `-a` or by nothing. -/
def findAnd : Nat → FindParse FindExpr
  | 0 => pure .yes
  | fuel + 1 => do
    let a ← findUnary fuel
    match ← findPeek with
    | none | some "-o" | some "-or" | some ")" => pure a
    | some "-a" | some "-and" =>
      discard findTake
      pure (.and a (← findAnd fuel))
    | some _ => pure (.and a (← findAnd fuel))

/-- A negation, a group, or a test. -/
def findUnary : Nat → FindParse FindExpr
  | 0 => pure .yes
  | fuel + 1 => do
    match ← findTake with
    | some "!" | some "-not" => pure (.not (← findUnary fuel))
    | some "(" =>
      let e ← findOr fuel
      match ← findTake with
      | some ")" => pure e
      | _ => throw "invalid expression; I was expecting to find a ')' somewhere but did not see one."
    | some w => findPrimary w
    | none => throw "invalid expression"

/-- A test, action or option by its word. -/
def findPrimary (w : String) : FindParse FindExpr := do
  match w with
  | "-name" => pure (.name (← findArg w) false)
  | "-iname" => pure (.name (← findArg w) true)
  | "-path" | "-wholename" => pure (.path (← findArg w) false)
  | "-ipath" | "-iwholename" => pure (.path (← findArg w) true)
  | "-type" =>
    let a ← findArg w
    match a.toList with
    | [c] =>
      if "fdlbcps".toList.contains c then pure (.type c)
      else throw ("Unknown argument to -type: " ++ a)
    | _ => throw ("Must separate multiple arguments to -type using: ','")
  | "-empty" => pure .empty
  | "-size" =>
    let a ← findArg w
    match signedCount a with
    | some (cmp, n, u) =>
      let unit := match u with
        | "" | "b" => some 512
        | "c" => some 1
        | "w" => some 2
        | "k" => some 1024
        | "M" => some 1048576
        | "G" => some 1073741824
        | _ => none
      match unit with
      | some unit => pure (.size cmp n unit)
      | none => throw ("invalid -size type `" ++ u ++ "'")
    | none => throw ("invalid argument `" ++ a ++ "' to `-size'")
  | "-perm" =>
    let a ← findArg w
    let (how, digits) := match a.toList with
      | '-' :: r => ('-', r)
      | '/' :: r => ('/', r)
      | r => ('=', r)
    if digits.isEmpty || !digits.all fun c => '0' ≤ c && c ≤ '7' then
      throw ("invalid mode " ++ quoteAlways a)
    pure (.perm how (digits.foldl (fun v c => 8 * v + (c.toNat - 48)) 0))
  | "-print" => pure .print
  | "-print0" => pure .print0
  | "-printf" => pure (.printf (← findArg w))
  | "-prune" => pure .prune
  | "-quit" => pure .quit
  | "-true" => pure .yes
  | "-false" => pure .no
  | "-maxdepth" | "-mindepth" =>
    let a ← findArg w
    match count? a with
    | some n =>
      modify fun (ws, l) => (ws, if w == "-maxdepth" then { l with maxDepth := some n } else { l with minDepth := n })
      pure .yes
    | none => throw ("Expected a positive decimal integer argument to " ++ w ++ ", but got " ++ quoteAlways a)
  | "-depth" | "-d" | "-xdev" | "-mount" | "-noleaf" | "-ignore_readdir_race" => pure .yes
  | "-follow" =>
    modify fun (ws, l) => (ws, { l with follow := true })
    pure .yes
  | "-user" | "-group" =>
    let a ← findArg w
    pure (if a == "root" || a == "0" then .yes else .no)
  | "-nouser" | "-nogroup" => pure .no
  | _ =>
    if w.startsWith "-" then throw ("unknown predicate `" ++ w ++ "'")
    else throw ("paths must precede expression: `" ++ w ++ "'")

end

/-- What a walk has done: its output and whether `-quit` ended it. -/
structure FindRun where
  out : List UInt8 := []
  quit : Bool := false
  pruned : Bool := false

/-- A path's last name. -/
def lastName (p : String) : String :=
  let t := if p.length > 1 && p.endsWith "/" then String.ofList p.toList.dropLast else p
  if t == "/" then "/" else ((t.splitOn "/").getLast?).getD t

/-- Apply a `-printf` format to a path. -/
def findPrintf (path start : String) (depth : Nat) (node : Node) (format : String) : String :=
  let rec go : Nat → List Char → List Char → List Char
    | 0, _, acc => acc.reverse
    | _, [], acc => acc.reverse
    | fuel + 1, '%' :: c :: rest, acc =>
      let t := match c with
        | 'p' => path
        | 'f' => lastName path
        | 'h' =>
          let parts := path.splitOn "/"
          if parts.length ≤ 1 then "." else "/".intercalate parts.dropLast
        | 'P' => if path == start then "" else String.ofList (path.toList.drop (start.length + (if start.endsWith "/" then 0 else 1)))
        | 's' => toString (nodeSize node)
        | 'm' => octal (modeBits node &&& 0o7777)
        | 'M' => modeLetters node
        | 'd' => toString depth
        | 'y' => match node with
          | .file _ _ => "f"
          | .dir _ => "d"
          | .link _ => "l"
          | .device _ => "c"
        | 'u' | 'g' => "root"
        | 'U' | 'G' => "0"
        | 'l' => match node with
          | .link t => t
          | _ => ""
        | '%' => "%"
        | other => "%" ++ String.singleton other
      go fuel rest (t.toList.reverse ++ acc)
    | fuel + 1, '\\' :: c :: rest, acc =>
      let e := match c with
        | 'n' => '\n'
        | 't' => '\t'
        | '0' => Char.ofNat 0
        | '\\' => '\\'
        | other => other
      go fuel rest (e :: acc)
    | fuel + 1, c :: rest, acc => go fuel rest (c :: acc)
  String.ofList (go (format.length + 1) format.toList [])

/-- Evaluate an expression at a path. -/
def FindExpr.test (s : State) (path start : String) (depth : Nat) (node : Node) :
    FindExpr → StateM FindRun Bool
  | .name pat icase => do
    let fold (t : String) := if icase then t.toLower else t
    let p := Pattern.compile ((fold pat).toList.map (·, false))
    pure (p.accepts (fold (lastName path)).toList)
  | .path pat icase => do
    let fold (t : String) := if icase then t.toLower else t
    let p := Pattern.compile ((fold pat).toList.map (·, false))
    pure (p.accepts (fold path).toList)
  | .type c => pure (match node, c with
    | .file _ _, 'f' | .dir _, 'd' | .link _, 'l' | .device _, 'c' => true
    | _, _ => false)
  | .empty => pure (match node with
    | .file d _ => d.size == 0
    | .dir _ => ((s.readDir path).toOption.getD []).isEmpty
    | .link _ | .device _ => false)
  | .size cmp n unit => do
    let units := (nodeSize node + unit - 1) / unit
    pure (if cmp == 0 then units == n else if cmp > 0 then units > n else units < n)
  | .perm how bits => do
    let m := modeBits node &&& 0o7777
    pure (match how with
      | '-' => m &&& bits == bits
      | '/' => bits == 0 || m &&& bits != 0
      | _ => m == bits)
  | .print => do
    modify fun r => { r with out := r.out ++ Octets.toBytes (path ++ "\n") }
    pure true
  | .print0 => do
    modify fun r => { r with out := r.out ++ Octets.toBytes path ++ [0] }
    pure true
  | .printf f => do
    modify fun r => { r with out := r.out ++ Octets.toBytes (findPrintf path start depth node f) }
    pure true
  | .prune => do
    modify fun r => { r with pruned := true }
    pure true
  | .quit => do
    modify fun r => { r with quit := true }
    pure true
  | .yes => pure true
  | .no => pure false
  | .not e => do pure !(← e.test s path start depth node)
  | .and a b => do
    if ← a.test s path start depth node then
      if (← get).quit then pure true else b.test s path start depth node
    else pure false
  | .or a b => do
    if ← a.test s path start depth node then pure true
    else if (← get).quit then pure false
    else b.test s path start depth node

/-- Walk a tree from a path: test it, then (unless pruned or too deep) its entries in name
order. -/
def findWalk (s : State) (expr : FindExpr) (limits : FindLimits) (start : String) :
    Nat → String → Nat → StateM FindRun Unit
  | 0, _, _ => pure ()
  | fuel + 1, path, depth => do
    if (← get).quit then return
    let found := if limits.follow then s.stat path else s.lstat path
    match found with
    | .error _ => pure ()
    | .ok node =>
      modify fun r => { r with pruned := false }
      if depth ≥ limits.minDepth then discard (expr.test s path start depth node)
      let pruned := (← get).pruned
      let deeper := match limits.maxDepth with
        | some m => depth < m
        | none => true
      if node.isDir && !pruned && deeper then
        let names := ((s.readDir path).toOption.getD []).mergeSort (fun a b => decide (a ≤ b))
        for n in names do
          let child := if path.endsWith "/" then path ++ n else path ++ "/" ++ n
          findWalk s expr limits start fuel child (depth + 1)

/-- `find [path...] [expression]`. -/
def find (inv : Invocation) : UtilM := do
  let (opts, rest) := (inv.args.takeWhile fun a => a == "-H" || a == "-L" || a == "-P",
    inv.args.dropWhile fun a => a == "-H" || a == "-L" || a == "-P")
  let isStart (a : String) : Bool := !(a.startsWith "-" && a.length > 1) && a != "(" && a != "!" && a != ")"
  let starts := rest.takeWhile isStart
  let words := rest.drop starts.length
  let starts := if starts.isEmpty then ["."] else starts
  let parsed : Except String (FindExpr × List String × FindLimits) :=
    match words with
    | [] => .ok (.yes, [], {})
    | _ => ((findOr (4 * words.length + 4)).run (words, {})).map fun (e, ws, l) => (e, ws, l)
  match parsed with
  | .error e =>
    complain inv e
    pure 1
  | .ok (_, w :: _, _) =>
    complain inv ("paths must precede expression: `" ++ w ++ "'")
    pure 1
  | .ok (expr, [], limits) =>
    let limits := { limits with follow := limits.follow || opts.contains "-L" }
    let expr := if expr.acts then expr else .and expr .print
    let s ← get
    let mut status := 0
    let mut run : FindRun := {}
    for start in starts do
      if run.quit then break
      match s.lstat start with
      | .error e =>
        complain inv (quoteAlways start ++ ": " ++ e.description)
        status := 1
      | .ok _ =>
        let ((), r) := (findWalk s expr limits start (s.files.entries.length + 2) start 0).run run
        run := r
    emit run.out
    closeOutput inv status

end Utility

end HostAgent.Shell
