import HostAgent.Shell.Utility.Core
import HostAgent.Shell.Regex

/-!
# `HostAgent.Shell.Utility.Grep` — `grep`

`grep [options] patterns [files]` prints the lines of its inputs that match one of the patterns
(`-e` patterns and `-f` files of patterns; a pattern holding newlines is one per line). Patterns
are basic regular expressions, extended with `-E`, fixed strings with `-F`; `-i` ignores case.

* A line is selected when a pattern matches in it (the whole line with `-x`, a whole word with
  `-w`: a match with no word character just before or after it), or, with `-v`, when none does.
* Output: the selected lines, each after the file name (when more than one file is searched, or
  `-H`) and the line number (`-n`); or only the matched parts (`-o`); or a count per file (`-c`);
  or the names of files with (`-l`) or without (`-L`) a selected line; nothing with `-q`.
  `-A`, `-B` and `-C` add lines of context, groups apart separated by `--`; `-m` stops after so
  many selected lines.
* A file holding a NUL byte is binary: instead of its lines, a note that it matches goes to the
  standard error.
* `-r` searches directories, the working directory when no file is named.

The status is 0 when a line was selected, 1 when none was, 2 on an error (unless `-q` found one).
-/

namespace HostAgent.Shell

namespace Utility

open Getopt

/-- How lines are matched. -/
structure GrepMatcher where
  regexes : List Regex
  fixed : List String
  isFixed : Bool
  icase : Bool
  word : Bool
  line : Bool

/-- Whether a character is a word character for `-w`. -/
def grepWordChar (c : Char) : Bool := c.isAlphanum || c == '_'

/-- The spans of a fixed string in a text, from `start`. -/
def fixedAt (icase : Bool) (pat : List Char) (text : Array Char) (s : Nat) : Bool :=
  s + pat.length ≤ text.size &&
    (pat.zipIdx.all fun (c, i) => Regex.sameChar icase c (text.getD (s + i) ' '))

/-- The first match in a line from `start` that `-w` and `-x` allow: its start and end. -/
def GrepMatcher.first (m : GrepMatcher) (text : Array Char) (start : Nat) : Option (Nat × Nat) :=
  let ok (s e : Nat) : Bool :=
    (!m.line || (s == 0 && e == text.size)) &&
    (!m.word || ((s == 0 || !grepWordChar (text.getD (s - 1) ' ')) &&
      (e == text.size || !grepWordChar (text.getD e ' ')) && (e > s || text.size == 0)))
  let candidates : List (Nat × Nat) :=
    if m.isFixed then
      m.fixed.filterMap fun f =>
        let pat := f.toList
        let rec find : Nat → Nat → Option (Nat × Nat)
          | 0, _ => none
          | fuel + 1, s =>
            if fixedAt m.icase pat text s && ok s (s + pat.length) then some (s, s + pat.length)
            else if s < text.size then find fuel (s + 1) else none
        find (text.size + 2) start
    else
      m.regexes.filterMap fun re =>
        (re.searchWhere text start ok).map fun (s, e, _) => (s, e)
  -- the leftmost, then the longest
  candidates.foldl (fun best c => match best with
    | none => some c
    | some b => if c.1 < b.1 || (c.1 == b.1 && c.2 > b.2) then some c else some b) none

/-- Whether a line matches. -/
def GrepMatcher.matches (m : GrepMatcher) (text : Array Char) : Bool := (m.first text 0).isSome

/-- The non-empty matches of a line, left to right, for `-o`. -/
def GrepMatcher.parts (m : GrepMatcher) (text : Array Char) : List (Nat × Nat) :=
  let rec go : Nat → Nat → List (Nat × Nat)
    | 0, _ => []
    | fuel + 1, pos =>
      match m.first text pos with
      | some (s, e) =>
        if e > s then (s, e) :: go fuel e
        else if s < text.size then go fuel (s + 1) else []
      | none => []
  go (text.size + 2) 0

/-- The options of `grep`. -/
def grepSpec : Spec :=
  { opts := [flag "E" 'E' "extended-regexp", flag "F" 'F' "fixed-strings",
      flag "G" 'G' "basic-regexp", flag "P" 'P' "perl-regexp",
      withArg "e" 'e' "regexp", withArg "f" 'f' "file", flag "i" 'i' "ignore-case",
      { key := "i", short := some 'y' }, longFlag "no-ignore-case" "no-ignore-case",
      flag "w" 'w' "word-regexp", flag "x" 'x' "line-regexp", flag "z" 'z' "null-data",
      flag "s" 's' "no-messages", flag "v" 'v' "invert-match", withArg "m" 'm' "max-count",
      flag "b" 'b' "byte-offset", flag "n" 'n' "line-number", flag "H" 'H' "with-filename",
      flag "h" 'h' "no-filename", longOnly "label" "label" .required, flag "o" 'o' "only-matching",
      flag "q" 'q' "quiet", longFlag "q" "silent", longOnly "binary-files" "binary-files" .required,
      flag "a" 'a' "text", { key := "I", short := some 'I' },
      withArg "d" 'd' "directories", withArg "D" 'D' "devices", flag "r" 'r' "recursive",
      flag "R" 'R' "dereference-recursive", longOnly "include" "include" .required,
      longOnly "exclude" "exclude" .required, longOnly "exclude-dir" "exclude-dir" .required,
      flag "L" 'L' "files-without-match", flag "l" 'l' "files-with-matches", flag "c" 'c' "count",
      flag "T" 'T' "initial-tab", flag "Z" 'Z' "null", withArg "A" 'A' "after-context",
      withArg "B" 'B' "before-context", withArg "C" 'C' "context",
      longOnly "color" "color" .optional, longOnly "color" "colour" .optional,
      flag "U" 'U' "binary", longFlag "line-buffered" "line-buffered"] ++ standard }

/-- What `grep` prints and counts for one input. -/
structure GrepPlan where
  matcher : GrepMatcher
  invert : Bool
  count : Bool
  listWith : Bool
  listWithout : Bool
  quiet : Bool
  onlyMatching : Bool
  numbers : Bool
  showName : Bool
  maxCount : Option Nat
  after : Nat
  before : Nat

/-- Search one input: what to print and whether a line was selected. -/
def GrepPlan.search (p : GrepPlan) (name : String) (data : List UInt8) : List UInt8 × Bool × Bool :=
  let binary := data.contains 0
  let ls := lines data
  let prefixFor (n : Nat) (sep : Char) : String :=
    (if p.showName then name ++ String.singleton sep else "") ++
    (if p.numbers then toString n ++ String.singleton sep else "")
  let selected (l : List UInt8) : Bool :=
    p.matcher.matches (Octets.ofBytes l).toList.toArray != p.invert
  -- the selected line numbers, up to the maximum count
  let chosen := (ls.zipIdx.filter fun (l, _) => selected l).map (·.2)
  let chosen := match p.maxCount with
    | some m => chosen.take m
    | none => chosen
  let any := !chosen.isEmpty
  if p.quiet then ([], any, false)
  else if p.listWith then ((if any then Octets.toBytes (name ++ "\n") else []), any, false)
  else if p.listWithout then ((if any then [] else Octets.toBytes (name ++ "\n")), !any, false)
  else if p.count then
    (Octets.toBytes ((if p.showName then name ++ ":" else "") ++ toString chosen.length ++ "\n"), any, false)
  else if binary then ([], any, any)
  else
    let lastChosen := chosen.getLast?.getD 0
    -- lines shown: chosen ones and their context
    let shown := (List.range ls.length).filter fun i =>
      chosen.contains i ||
      chosen.any (fun c => (i > c && i ≤ c + p.after && i ≤ lastChosen + p.after) || (i < c && i + p.before ≥ c))
    let contextual := p.after > 0 || p.before > 0
    let render (i : Nat) : List UInt8 :=
      let l := ls.getD i []
      if chosen.contains i then
        if p.onlyMatching then
          let text := (Octets.ofBytes l).toList.toArray
          (p.matcher.parts text).flatMap fun (s, e) =>
            Octets.toBytes (prefixFor (i + 1) ':' ++ String.ofList (text.extract s e).toList ++ "\n")
        else Octets.toBytes (prefixFor (i + 1) ':') ++ l ++ [10]
      else if p.onlyMatching then []
      else Octets.toBytes (prefixFor (i + 1) '-') ++ l ++ [10]
    let rec emitAll : List Nat → Option Nat → List UInt8
      | [], _ => []
      | i :: more, prev =>
        let gap := match prev with
          | some j => contextual && i > j + 1
          | none => false
        (if gap then Octets.toBytes "--\n" else []) ++ render i ++ emitAll more (some i)
    (emitAll shown none, any, false)

/-- The files under a directory, for `-r`, as paths below it. -/
def treeFiles (s : State) (dir : String) : Nat → List String
  | 0 => []
  | fuel + 1 =>
    match s.readDir dir with
    | .error _ => []
    | .ok names =>
      names.flatMap fun n =>
        let path := if dir == "." then n else if dir.endsWith "/" then dir ++ n else dir ++ "/" ++ n
        match s.lstat path with
        | .ok (.dir _) => treeFiles s path fuel
        | .ok (.file _ _) => [path]
        | _ => []

/-- `grep`. -/
def grep (inv : Invocation) : UtilM :=
  withOptions inv grepSpec 2 fun p => do
    let fromFiles ← (do
      let mut pats : List String := []
      for f in p.all "f" do
        match ← readSource f with
        | .ok bs =>
          let text := Octets.ofBytes bs
          let ls := (text.splitOn "\n")
          let ls := if text.endsWith "\n" then ls.dropLast else ls
          pats := pats ++ ls
        | .error e =>
          complain inv (plainReport f e)
          return none
      pure (some pats))
    match fromFiles with
    | none => pure 2
    | some filePats =>
    let (patterns, operands) :=
      if p.has "e" || p.has "f" then ((p.all "e").flatMap (·.splitOn "\n") ++ filePats, p.operands)
      else match p.operands with
        | pat :: rest => (pat.splitOn "\n", rest)
        | [] => ([], [])
    if !(p.has "e" || p.has "f") && p.operands.isEmpty then
      State.print 2 ("Usage: " ++ inv.argv0 ++ " [OPTION]... PATTERNS [FILE]...\n" ++ tryHelp inv.argv0 ++ "\n")
      return 2
    let extended := (p.opts.filter fun (k, _) => k == "E" || k == "F" || k == "G").getLast?.map (·.1)
    let icase := p.has "i"
    let isFixed := extended == some "F"
    let flavor : Regex.Flavor := { extended := extended == some "E", icase }
    let compiled := if isFixed then .ok [] else patterns.mapM (Regex.compile flavor)
    match compiled with
    | .error e =>
      complain inv e
      pure 2
    | .ok regexes =>
      let number (key : String) : Option Nat := (p.last? key).bind count?
      let context := (number "C").getD 0
      let plan : GrepPlan :=
        { matcher := { regexes, fixed := patterns, isFixed, icase, word := p.has "w", line := p.has "x" },
          invert := p.has "v", count := p.has "c", listWith := p.has "l",
          listWithout := p.has "L", quiet := p.has "q", onlyMatching := p.has "o",
          numbers := p.has "n", showName := false, maxCount := number "m",
          after := (number "A").getD context, before := (number "B").getD context }
      let recursive := p.has "r" || p.has "R"
      let s ← get
      let inputs : List String :=
        if operands.isEmpty then (if recursive then treeFiles s "." 64 else ["-"])
        else if recursive then operands.flatMap fun o =>
          if s.isDir o then treeFiles s o 64 else [o]
        else operands
      let many := inputs.length > 1 || (recursive && !(operands.length == 1 && !s.isDir (operands.headD "")))
      let showName := (p.has "H" || many) && !p.has "h"
      let plan := { plan with showName }
      let mut status := 1
      let mut failed := false
      for name in inputs do
        let shown := if name == "-" then (p.last? "label").getD "(standard input)" else name
        let s ← get
        if name != "-" && s.isDir name then
          if !p.has "s" then complain inv (shown ++ ": Is a directory")
          failed := true
          continue
        match ← readSource name with
        | .error e =>
          if !p.has "s" then complain inv (plainReport name e)
          failed := true
        | .ok data =>
          let (out, any, binaryHit) := plan.search shown data
          emit out
          if binaryHit then complain inv (shown ++ ": binary file matches")
          if any then
            status := 0
            if plan.quiet then break
      if failed && !(plan.quiet && status == 0) then pure 2
      else closeOutput inv status

end Utility

end HostAgent.Shell
