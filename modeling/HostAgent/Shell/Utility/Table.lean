import HostAgent.Shell.Utility.Lines
import HostAgent.Shell.Utility.Sort
import HostAgent.Shell.Utility.Bytes
import HostAgent.Shell.Utility.Files
import HostAgent.Shell.Utility.Expr
import HostAgent.Shell.Utility.Grep
import HostAgent.Shell.Utility.Sed
import HostAgent.Shell.Utility.Host
import HostAgent.Shell.Utility.Digest
import HostAgent.Shell.Builtins

/-!
# `HostAgent.Shell.Utility.Table` — the programs of the host

The utilities installed as programs, by the name of their file, and the small ones that need
nothing of their own: `true`, `false`, `echo` (which takes `-n`, `-e` and `-E` and, unlike the
shell's, no escapes by default), `printf`, `test` and `[`, `sleep` and `printenv`. The shell
itself and `env`, which start other programs, are run by the evaluator.
-/

namespace HostAgent.Shell

open HostAgent.Host

namespace Utility

open Getopt

/-- `echo [-neE] args...`: the arguments on a line; `-e` takes backslash escapes. -/
def echoUtility (inv : Invocation) : UtilM := do
  let isOpt (a : String) : Bool := a.length > 1 && a.startsWith "-" && (a.toList.drop 1).all ("neE".toList.contains ·)
  let opts := inv.args.takeWhile isOpt
  let args := inv.args.drop opts.length
  let letters := opts.flatMap fun a => a.toList.drop 1
  let newline := !letters.contains 'n'
  -- the last of `-e` and `-E` counts
  let escapes := (letters.reverse.find? (fun c => c == 'e' || c == 'E')) == some 'e'
  let text := " ".intercalate args
  if escapes then
    let bs := Octets.toBytes text
    let (out, stop) := expandEscapes (bs.length + 1) bs
    emit (if stop then out else out ++ (if newline then [10] else []))
  else
    emitText (text ++ (if newline then "\n" else ""))
  closeOutput inv 0

/-- `printf format args...` as a program: the shell's formatting, messages under the program's
name. -/
def printfUtility (inv : Invocation) : UtilM := do
  match inv.args with
  | [] => misuse inv "missing operand" 1
  | format :: rest =>
    let p := printfBytes format rest
    for e in p.errors do complain inv e
    emit p.bytes
    closeOutput inv (if p.invalid then 1 else if p.errors.isEmpty then 0 else 1)

/-- `test` and `[` as programs: the shell's expression grammar, status 2 on a misuse. -/
def testUtility (bracket : Bool) (inv : Invocation) : UtilM := do
  let args ← if bracket then
      if inv.args.getLast? == some "]" then pure (some inv.args.dropLast) else pure none
    else pure (some inv.args)
  match args with
  | none =>
    complain inv "missing ']'"
    pure 2
  | some args =>
    match ← State.testArgs (4 * args.length + 8) args with
    | .ok true => pure 0
    | .ok false => pure 1
    | .error e =>
      complain inv e
      pure 2

/-- `sleep intervals...`: the intervals are added to the time slept. -/
def sleep (inv : Invocation) : UtilM :=
  withOptions inv { opts := standard } 1 fun p => do
    if p.operands.isEmpty then return (← misuse inv "missing operand" 1)
    match p.operands.find? (fun a => (intervalMillis? a).isNone) with
    | some bad => misuse inv ("invalid time interval " ++ quoteAlways bad) 1
    | none =>
      let total := (p.operands.filterMap intervalMillis?).foldl (· + ·) 0
      State.pass total
      pure 0

/-- `printenv [names...]`: the values of the named variables of the environment (status 1 when
one is missing), or every variable as `name=value`. -/
def printenv (inv : Invocation) : UtilM :=
  withOptions inv { opts := [flag "0" '0' "null"] ++ standard } 2 fun p => do
    let ending := if p.has "0" then "\x00" else "\n"
    match p.operands with
    | [] =>
      for (n, v) in inv.env do emitText (n ++ "=" ++ v ++ ending)
      closeOutput inv 0
    | names =>
      let mut status := 0
      for n in names do
        match (inv.env.reverse.find? (·.1 == n)) with
        | some (_, v) => if !n.toList.contains '=' then emitText (v ++ ending) else status := 1
        | none => status := 1
      closeOutput inv status

/-- The utilities installed as programs, by file name. -/
def programs : List String :=
  ["cat", "head", "tail", "tac", "rev", "nl", "paste", "wc", "yes", "seq", "sort", "uniq", "cut",
    "tr", "od", "cmp", "mkdir", "rmdir", "rm", "touch", "cp", "mv", "ln", "tee", "chmod", "ls",
    "basename", "dirname", "readlink", "realpath", "true", "false", "echo", "printf", "test", "[",
    "sleep", "printenv", "expr", "grep", "egrep", "fgrep", "sed", "uname", "hostname", "id", "whoami", "base64", "stat", "find", "md5sum", "sha1sum", "sha256sum", "cksum"]

/-- Run the utility a program file is, by its file name; `none` when it is not one of them. -/
def run? (file : String) (inv : Invocation) : Option UtilM :=
  match file with
  | "cat" => some (cat inv)
  | "head" => some (headTail true inv)
  | "tail" => some (headTail false inv)
  | "tac" => some (tac inv)
  | "rev" => some (rev inv)
  | "nl" => some (nl inv)
  | "paste" => some (paste inv)
  | "wc" => some (wc inv)
  | "yes" => some (yes inv)
  | "seq" => some (seq inv)
  | "sort" => some (sort inv)
  | "uniq" => some (uniq inv)
  | "cut" => some (cut inv)
  | "tr" => some (tr inv)
  | "od" => some (od inv)
  | "cmp" => some (cmp inv)
  | "mkdir" => some (mkdir inv)
  | "rmdir" => some (rmdir inv)
  | "rm" => some (rm inv)
  | "touch" => some (touch inv)
  | "cp" => some (cp inv)
  | "mv" => some (mv inv)
  | "ln" => some (ln inv)
  | "tee" => some (tee inv)
  | "chmod" => some (chmod inv)
  | "ls" => some (ls inv)
  | "basename" => some (basename inv)
  | "dirname" => some (dirname inv)
  | "readlink" => some (readlink inv)
  | "realpath" => some (realpath inv)
  | "true" => some (pure 0)
  | "false" => some (pure 1)
  | "echo" => some (echoUtility inv)
  | "printf" => some (printfUtility inv)
  | "test" => some (testUtility false inv)
  | "[" => some (testUtility true inv)
  | "sleep" => some (sleep inv)
  | "printenv" => some (printenv inv)
  | "expr" => some (expr inv)
  | "grep" => some (grep inv)
  | "sed" => some (sed inv)
  | "uname" => some (uname inv)
  | "hostname" => some (hostname inv)
  | "id" => some (userIds inv)
  | "whoami" => some (whoami inv)
  | "base64" => some (base64 inv)
  | "stat" => some (stat inv)
  | "find" => some (find inv)
  | "md5sum" => some (digestUtility Digest.md5 inv)
  | "sha1sum" => some (digestUtility Digest.sha1 inv)
  | "sha256sum" => some (digestUtility Digest.sha256 inv)
  | "cksum" => some (cksum inv)
  | "egrep" => some (grep { inv with argv0 := "grep", args := "-E" :: inv.args })
  | "fgrep" => some (grep { inv with argv0 := "grep", args := "-F" :: inv.args })
  | _ => none

end Utility

end HostAgent.Shell
