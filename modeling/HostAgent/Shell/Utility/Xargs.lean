import HostAgent.Shell.Utility.Core

/-!
# `HostAgent.Shell.Utility.Xargs` — `xargs`

`xargs [-0] [-d delim] [-n max] [-L lines] [-I text] [-E end] [-r] [-t] [command [args]]` reads
items from its standard input and runs the command (`echo` when none is given) with the
arguments followed by as many items as a command may take: all of them, `-n` at a time, or
those of `-L` lines. With `-I`, each line is one item, and the command runs once for each
line with the item in place of the text wherever it occurs in the arguments.

Items are separated by blanks and newlines; quotes and backslashes keep blanks in an item. With
`-0` or `-d` the separator is a NUL or the given character, and quotes are plain characters.
`-E` ends the input at an item equal to its text. Without `-r` the command runs once even when
there are no items.

The commands are started by the host (`Launcher`) with the standard input empty. The status is
0, 123 when some command failed with a status from 1 to 125, and at once 124 (a status of
255), 125 (a signal), 126 (a command that cannot run) or 127 (one not found).
-/

namespace HostAgent.Shell

open HostAgent.Host

namespace Utility

/-- The items of blank-separated input, with quotes and backslashes; each item with the number
of the line it ends on, or the message for an unmatched quote. -/
def quotedItems (bs : List Char) : Except String (List (String × Nat)) :=
  -- the items so far (reversed), the current item, whether one is started, the line
  let rec go : Nat → List Char → List (String × Nat) → List Char → Bool → Nat →
      Except String (List (String × Nat))
    | 0, _, items, _, _, _ => .ok items.reverse
    | _, [], items, cur, started, line =>
      .ok (if started then (String.ofList cur.reverse, line) :: items else items).reverse
    | fuel + 1, c :: rest, items, cur, started, line =>
      let flush := if started then (String.ofList cur.reverse, line) :: items else items
      if c == '\n' then go fuel rest flush [] false (line + 1)
      else if c == ' ' || c == '\t' then go fuel rest flush [] false line
      else if c == '\\' then
        match rest with
        | d :: more => go fuel more items (d :: cur) true line
        | [] => go fuel [] items cur started line
      else if c == '\'' || c == '"' then
        let body := rest.takeWhile (fun d => d != c && d != '\n')
        let after := rest.drop body.length
        match after with
        | d :: more =>
          if d == c then go fuel more items (body.reverse ++ cur) true line
          else .error (if c == '\'' then "unmatched single quote; by default quotes are special to xargs unless you use the -0 option"
            else "unmatched double quote; by default quotes are special to xargs unless you use the -0 option")
        | [] => .error (if c == '\'' then "unmatched single quote; by default quotes are special to xargs unless you use the -0 option"
            else "unmatched double quote; by default quotes are special to xargs unless you use the -0 option")
      else go fuel rest items (c :: cur) true line
  go (bs.length + 1) bs [] [] false 0

/-- Replace every occurrence of a text in a word. -/
def replaceAll (word pattern item : String) : String :=
  if pattern.isEmpty then word else word.replace pattern item

/-- The options of `xargs`. -/
def xargsSpec : Getopt.Spec :=
  { opts := [Getopt.flag "0" '0' "null", Getopt.withArg "d" 'd' "delimiter",
      Getopt.withArg "E" 'E' "eof", { key := "e", short := some 'e', long := some "eof", arg := .optional },
      Getopt.withArg "I" 'I' "replace", { key := "i", short := some 'i', arg := .optional },
      Getopt.withArg "L" 'L' "max-lines", { key := "l", short := some 'l', arg := .optional },
      Getopt.withArg "n" 'n' "max-args", Getopt.flag "r" 'r' "no-run-if-empty",
      Getopt.withArg "s" 's' "max-chars", Getopt.flag "t" 't' "verbose", Getopt.flag "x" 'x' "exit",
      Getopt.withArg "P" 'P' "max-procs", Getopt.flag "p" 'p' "interactive",
      Getopt.withArg "a" 'a' "arg-file", Getopt.flag "o" 'o' "open-tty",
      Getopt.longOnly "process-slot-var" "process-slot-var" .required,
      Getopt.longFlag "show-limits" "show-limits"] ++ Getopt.standard, inOrder := true }

/-- Run the commands one after the other; the final status. -/
def runBatches (inv : Invocation) (launcher : Launcher) (trace : Bool) :
    List (List String) → Bool → ShellM Nat
  | [], failed => pure (if failed then 123 else 0)
  | argv :: more, failed => do
    if trace then State.print 2 (" ".intercalate argv ++ "\n")
    let name := argv.headD "echo"
    match ← launcher.start true argv with
    | .exited 255 =>
      complain inv (name ++ ": exited with status 255; aborting")
      pure 124
    | .exited status => runBatches inv launcher trace more (failed || status != 0)
    | .killed sig =>
      complain inv (name ++ ": terminated by signal " ++ toString sig)
      pure 125
    | .failed e =>
      complain inv (name ++ ": " ++ e.description)
      pure (if e == .notFound then 127 else 126)

/-- Cut a list into pieces of at most `n` (all of it when `n` is 0). -/
def batchesOf {α : Type} (n : Nat) (xs : List α) : List (List α) :=
  let rec go : Nat → List α → List (List α)
    | 0, _ => []
    | _, [] => []
    | fuel + 1, ys => ys.take n :: go fuel (ys.drop n)
  if n == 0 then [xs] else go (xs.length + 1) xs

/-- `xargs`: run a command with the items of the standard input as arguments. -/
def xargs (launcher : Launcher) (inv : Invocation) : UtilM :=
  withOptions inv xargsSpec 1 fun p => do
    let input ← (do
      match p.last? "a" with
      | some f => readSource f
      | none => readSource "-")
    match input with
    | .error e =>
      complain inv ("cannot open " ++ quoteAlways ((p.last? "a").getD "-") ++ ": " ++ e.description)
      pure 1
    | .ok bytes =>
    let text := (Octets.ofBytes bytes).toList
    let command := if p.operands.isEmpty then ["echo"] else p.operands
    let replace : Option String :=
      match p.last? "I" with
      | some r => some r
      | none => if p.has "i" then some ((p.last? "i").getD "\x7b\x7d") else none
    let eof : Option String := (p.last? "E").orElse fun _ => p.last? "e"
    let limit (key : String) : Except String (Option Nat) :=
      match p.last? key with
      | none => .ok none
      | some v => match count? v with
        | some n => if n == 0 then .error ("value " ++ v ++ " for -" ++ key ++ " option should be >= 1")
          else .ok (some n)
        | none => .error ("invalid number " ++ quoteAlways v ++ " for -" ++ key ++ " option")
    match limit "n", limit "L" with
    | .error e, _ | _, .error e =>
      complain inv e
      pure 1
    | .ok maxArgs, .ok maxLines =>
    let maxLines := if p.has "l" then some ((p.last? "l").bind count? |>.getD 1) else maxLines
    -- the items, each with its line
    let items : Except String (List (String × Nat)) :=
      if p.has "0" || p.has "d" then
        let sep := if p.has "0" then Char.ofNat 0 else
          match ((p.last? "d").getD "\n").toList with
          | ['\\', 'n'] => '\n'
          | ['\\', 't'] => '\t'
          | ['\\', '0'] => Char.ofNat 0
          | c :: _ => c
          | [] => '\n'
        let pieces := (String.ofList text).splitOn (String.singleton sep)
        let pieces := if pieces.getLast? == some "" then pieces.dropLast else pieces
        .ok (pieces.zipIdx)
      else if replace.isSome then
        let ls := (String.ofList text).splitOn "\n"
        let ls := if ls.getLast? == some "" then ls.dropLast else ls
        let kept := ls.zipIdx.filterMap fun (l, i) =>
          let t := String.ofList (l.toList.dropWhile fun c => c == ' ' || c == '\t')
          if t.isEmpty then none else some (t, i)
        .ok kept
      else quotedItems text
    match items with
    | .error e =>
      complain inv e
      pure 1
    | .ok items =>
    let items : List (String × Nat) := match eof with
      | some e => items.takeWhile fun (x : String × Nat) => x.1 != e
      | none => items
    let batches : List (List String) :=
      match replace with
      | some r => items.map fun (item, _) => command.map fun w => replaceAll w r item
      | none =>
        let groups : List (List String) :=
          match maxLines with
          | some n =>
            -- the items of each `n` lines
            let lineNos := (items.map fun (x : String × Nat) => x.2).eraseDups
            (batchesOf n lineNos).map fun group =>
              (items.filter fun (x : String × Nat) => group.contains x.2).map fun (x : String × Nat) => x.1
          | none => [items.map fun (x : String × Nat) => x.1]
        let groups := match maxArgs with
          | some n => groups.flatMap fun (g : List String) => if g.isEmpty then [g] else batchesOf n g
          | none => groups
        let groups := groups.filter fun (g : List String) => !g.isEmpty
        let groups := if groups.isEmpty && !p.has "r" then [[]] else groups
        groups.map fun g => command ++ g
    runBatches inv launcher (p.has "t" || p.has "p") batches false

end Utility

end HostAgent.Shell
