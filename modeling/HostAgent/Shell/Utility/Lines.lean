import HostAgent.Shell.Utility.Core

/-!
# `HostAgent.Shell.Utility.Lines` — utilities that copy and count lines

`cat`, `head`, `tail`, `tac`, `rev`, `nl`, `paste`, `wc`, `yes` and `seq`, each reading its
operands (standard input for none or `-`) in the host's C locale, where a character is a byte.

* `cat` numbers lines across all its inputs (`-n`, or only non-blank ones with `-b`), squeezes
  blank lines (`-s`) and shows ends, tabs and other control bytes (`-E`, `-T`, `-v`);
* `head` and `tail` take a count of lines or bytes (`-n`, `-c`, or the old `-N`); `head -n -N`
  leaves out the last `N`, `tail -n +N` starts at line `N`; with several inputs each gets a
  `==> name <==` heading;
* `wc` writes the counts it is asked for (lines, words, bytes by default) in columns as wide as
  the largest count can be, and a total after several inputs;
* `yes` writes its line until the reader has enough: the model stops after a pipe's worth.
-/

namespace HostAgent.Shell

open HostAgent.Host

namespace Utility

open Getopt

/-! ## `cat` -/

/-- How `cat -v` shows a byte: control bytes as `^X`, DEL as `^?`, high bytes as `M-`. -/
def showByte (tabs : Bool) (b : UInt8) : List UInt8 :=
  let low (c : UInt8) : List UInt8 :=
    if c == 9 && !tabs then [9]
    else if c < 32 then [94, c + 64]
    else if c == 127 then [94, 63]
    else [c]
  if b ≥ 128 then [77, 45] ++ low (b - 128) else low b

/-- The options of `cat`. -/
def catSpec : Spec :=
  { opts := [flag "A" 'A' "show-all", flag "b" 'b' "number-nonblank", { key := "e", short := some 'e' },
      flag "E" 'E' "show-ends", flag "n" 'n' "number", flag "s" 's' "squeeze-blank",
      { key := "t", short := some 't' }, flag "T" 'T' "show-tabs", { key := "u", short := some 'u' },
      flag "v" 'v' "show-nonprinting"] ++ standard }

/-- A line number as `cat` and `nl` write it: right-aligned in six columns, then a tab. -/
def lineNumber (n : Nat) : List UInt8 :=
  let d := toString n
  (String.ofList (List.replicate (6 - d.length) ' ') ++ d ++ "\t").toUTF8.toList

/-- `cat`: its inputs one after the other, changed as the options ask. An input that is the
regular file the output goes to, with bytes left to read, is refused: copying it would never end. -/
def cat (inv : Invocation) : UtilM :=
  withOptions inv catSpec 1 fun p => do
    let names := if p.operands.isEmpty then ["-"] else p.operands
    -- a nonempty regular file is not copied onto itself
    let s ← get
    let outLoc : Option Location := match s.fd? 1 with
      | some (.file id) => (s.openFile? id).map (·.loc)
      | _ => none
    let itself (n : String) : Bool :=
      let at? : Option (Location × Nat) := if n == "-" then
          match s.fd? 0 with
          | some (.file id) => (s.openFile? id).map fun f => (f.loc, f.offset)
          | _ => none
        else (s.resolve n true).toOption.map fun l => (l, 0)
      match at?, outLoc with
      | some (l, offset), some o =>
        l == o && match s.files.lookup l with
          | some (.file data _) => offset < data.size
          | _ => false
      | _, _ => false
    let copied := names.filter fun n => !itself n
    for n in names.filter itself do
      complain inv (quoteName n ++ ": input file is output file")
    let (read, failed) ← readInputs inv copied plainReport
    let failed := failed || copied.length < names.length
    let bytes := read.flatMap (·.2)
    let showAll := p.has "A"
    let ends := showAll || p.has "e" || p.has "E"
    let tabs := showAll || p.has "t" || p.has "T"
    let visible := showAll || p.has "e" || p.has "t" || p.has "v"
    let nonblank := p.has "b"
    let number := nonblank || p.has "n"
    let squeeze := p.has "s"
    if !(ends || tabs || visible || number || squeeze) then
      emit bytes
    else
      let ls := lines bytes
      let lastEnded := bytes.getLast? == some 10
      let count := ls.length
      let mut out : List UInt8 := []
      let mut n := 0
      let mut prevBlank := false
      let mut i := 0
      for l in ls do
        i := i + 1
        let blank := l.isEmpty
        let hasNewline := i < count || lastEnded
        if squeeze && blank && prevBlank then continue
        prevBlank := blank
        let numbered := number && !(nonblank && blank)
        if numbered then n := n + 1
        let body := if visible then l.flatMap (showByte tabs)
          else if tabs then l.flatMap fun b => if b == 9 then [94, 73] else [b]
          else l
        out := out ++ (if numbered then lineNumber n else []) ++ body ++
          (if hasNewline then (if ends then [36, 10] else [10]) else [])
      emit out
    closeOutput inv (if failed then 1 else 0)

/-! ## `head` and `tail` -/

/-- A count as `head` and `tail` read it: a sign (`-` for "all but", `+` for "from"), and the
number. -/
structure Amount where
  sign : Option Char
  value : Nat

/-- Read a count with its optional sign. -/
def amount? (s : String) : Option Amount :=
  match s.toList with
  | '-' :: rest => (sizedCount? (String.ofList rest)).map ({ sign := some '-', value := · })
  | '+' :: rest => (sizedCount? (String.ofList rest)).map ({ sign := some '+', value := · })
  | _ => (sizedCount? s).map ({ sign := none, value := · })

/-- The old way of giving a count: `-N` (or `+N` for `tail`) before everything else, with an
optional `c` (bytes) or `l` (lines) after it; rewritten as the option it stands for. -/
def oldCount (allowPlus : Bool) (args : List String) : List String :=
  match args with
  | a :: rest =>
    let cs := a.toList
    match cs with
    | s :: body =>
      let ds := body.takeWhile Char.isDigit
      let tail := body.drop ds.length
      if (s == '-' || (allowPlus && s == '+')) && !ds.isEmpty &&
          tail.all (fun c => "clbkmqvfz".toList.contains c) then
        let unit := if tail.contains 'c' then "-c" else "-n"
        let signText := if s == '+' then "+" else ""
        let extra := (tail.filter fun c => "qvfz".toList.contains c).map fun c => "-" ++ String.singleton c
        [unit, signText ++ String.ofList ds] ++ extra ++ rest
      else args
    | [] => args
  | [] => args

/-- The heading of one input among several. -/
def heading (first : Bool) (name : String) : List UInt8 :=
  ((if first then "" else "\n") ++ "==> " ++ (if name == "-" then "standard input" else name) ++
    " <==\n").toUTF8.toList

/-- The first lines (or bytes) of some bytes; with the `-` sign all but the last ones. -/
def headOf (bytesMode : Bool) (a : Amount) (bs : List UInt8) : List UInt8 :=
  if bytesMode then
    if a.sign == some '-' then bs.take (bs.length - a.value) else bs.take a.value
  else
    let ls := lines bs
    let lastEnded := bs.getLast? == some 10
    let keep := if a.sign == some '-' then ls.length - a.value else a.value
    let kept := ls.take keep
    let whole := unlines kept
    if kept.length == ls.length && !lastEnded then whole.dropLast else whole

/-- The last lines (or bytes) of some bytes; with the `+` sign those from the given one on. -/
def tailOf (bytesMode : Bool) (a : Amount) (bs : List UInt8) : List UInt8 :=
  if bytesMode then
    if a.sign == some '+' then bs.drop (a.value - 1) else bs.drop (bs.length - a.value)
  else
    let ls := lines bs
    let lastEnded := bs.getLast? == some 10
    let start := if a.sign == some '+' then a.value - 1 else ls.length - a.value
    let kept := ls.drop start
    let whole := unlines kept
    if !lastEnded && !kept.isEmpty then whole.dropLast else whole

/-- The options of `head`. -/
def headSpec : Spec :=
  { opts := [withArg "c" 'c' "bytes", withArg "n" 'n' "lines", flag "q" 'q' "quiet",
      longFlag "q" "silent", flag "v" 'v' "verbose", flag "z" 'z' "zero-terminated"] ++ standard }

/-- The `-f` option of `tail`: follow the files as they grow (the model has them end). -/
def follow : Opt := { key := "f", short := some 'f', long := some "follow", arg := .optional }

/-- The options of `tail`. -/
def tailSpec : Spec :=
  { opts := [withArg "c" 'c' "bytes", withArg "n" 'n' "lines", follow, { key := "F", short := some 'F' },
      longOnly "m" "max-unchanged-stats" .required, longOnly "pid" "pid" .required,
      flag "q" 'q' "quiet", longFlag "q" "silent", longFlag "retry" "retry",
      withArg "s" 's' "sleep-interval", flag "v" 'v' "verbose", flag "z" 'z' "zero-terminated"] ++
      standard }

/-- `head` (`isHead`) or `tail`: the first or last part of each input. -/
def headTail (isHead : Bool) (inv : Invocation) : UtilM :=
  let name := if isHead then "head" else "tail"
  withOptions { inv with args := oldCount (!isHead) inv.args }
      (if isHead then headSpec else tailSpec) 1 fun p => do
    let bytesMode := (p.opts.reverse.find? fun (k, _) => k == "c" || k == "n").any (·.1 == "c")
    let given := if bytesMode then p.last? "c" else p.last? "n"
    let amount := match given with
      | some t => amount? t
      | none => some { sign := none, value := 10 }
    match amount with
    | none =>
      complain inv ("invalid number of " ++ (if bytesMode then "bytes" else "lines") ++ ": " ++
        quoteAlways (given.getD ""))
      pure 1
    | some a =>
      let names := if p.operands.isEmpty then ["-"] else p.operands
      let headings := (names.length > 1 && !p.has "q") || p.has "v"
      let mut status := 0
      let mut first := true
      for n in names do
        let data ← if n == "-" && isHead then do
            -- standard input: a file is left just after what was used
            let s ← get
            if s.fd? 0 == some .zero then
              pure (.ok (List.replicate (if bytesMode then a.value else zeroBlock) 0))
            else match s.inputBytes with
              | some bs =>
                let used := headOf bytesMode a bs
                if ← inputSeekable then State.consume used.length else State.consume bs.length
                pure (.ok bs)
              | none => pure (.error (IoError.other "Bad file descriptor"))
          else readSource n
        match data with
        | .error e =>
          let reason := match e with
            | .isADirectory => "error reading " ++ quoteAlways n ++ ": " ++ e.description
            | _ => "cannot open " ++ quoteAlways n ++ " for reading: " ++ e.description
          complain inv reason
          status := 1
        | .ok bs =>
          if headings then emit (heading first n)
          first := false
          emit (if isHead then headOf bytesMode a bs else tailOf bytesMode a bs)
      let _ := name
      closeOutput inv status

/-! ## `tac`, `rev`, `nl`, `paste` -/

/-- `tac`: the lines of its inputs, last first. -/
def tac (inv : Invocation) : UtilM :=
  withOptions inv { opts := [flag "b" 'b' "before", flag "r" 'r' "regex", withArg "s" 's' "separator"] ++
      standard } 1 fun p => do
    let names := if p.operands.isEmpty then ["-"] else p.operands
    let (read, failed) ← readInputs inv names
      (fun n e => "failed to open " ++ quoteAlways n ++ " for reading: " ++ e.description)
    for (_, bs) in read do
      let ls := lines bs
      let lastEnded := bs.getLast? == some 10
      match ls.reverse with
      | [] => pure ()
      | last :: others =>
        emit (last ++ (if lastEnded then [10] else []) ++ unlines others)
    closeOutput inv (if failed then 1 else 0)

/-- `rev`: each line with its characters in reverse order. -/
def rev (inv : Invocation) : UtilM := do
  let names := if inv.args.isEmpty then ["-"] else inv.args
  let (read, failed) ← readInputs inv names
    (fun n e => "cannot open " ++ n ++ ": " ++ e.description)
  for (_, bs) in read do
    let ls := lines bs
    let lastEnded := bs.getLast? == some 10
    let out := unlines (ls.map (·.reverse))
    emit (if lastEnded || ls.isEmpty then out else out.dropLast)
  closeOutput inv (if failed then 1 else 0)

/-- `nl`: the lines of its inputs, the non-empty ones numbered (`-b a` numbers all). -/
def nl (inv : Invocation) : UtilM :=
  withOptions inv { opts := [withArg "b" 'b' "body-numbering", withArg "w" 'w' "number-width",
      withArg "s" 's' "number-separator", withArg "v" 'v' "starting-line-number",
      withArg "i" 'i' "line-increment"] ++ standard } 1 fun p => do
    let names := if p.operands.isEmpty then ["-"] else p.operands
    let (read, failed) ← readInputs inv names plainReport
    let all := p.last? "b" == some "a"
    let width := ((p.last? "w").bind count?).getD 6
    let sep := (p.last? "s").getD "\t"
    let step := ((p.last? "i").bind count?).getD 1
    let mut n := ((p.last? "v").bind count?).getD 1
    let bytes := read.flatMap (·.2)
    let lastEnded := bytes.getLast? == some 10
    let ls := lines bytes
    let mut out : List UInt8 := []
    let mut i := 0
    for l in ls do
      i := i + 1
      let ending : List UInt8 := if i < ls.length || lastEnded then [10] else []
      if all || !l.isEmpty then
        let d := toString n
        out := out ++ (String.ofList (List.replicate (width - d.length) ' ') ++ d ++ sep).toUTF8.toList ++
          l ++ ending
        n := n + step
      else
        out := out ++ (String.ofList (List.replicate (width + sep.length) ' ')).toUTF8.toList ++ l ++ ending
    emit out
    closeOutput inv (if failed then 1 else 0)

/-- `paste`: the lines of its inputs side by side, separated by tabs (or the characters of
`-d`, in turn); with `-s` each input's lines on one line. -/
def paste (inv : Invocation) : UtilM :=
  withOptions inv { opts := [withArg "d" 'd' "delimiters", flag "s" 's' "serial",
      flag "z" 'z' "zero-terminated"] ++ standard } 1 fun p => do
    let names := if p.operands.isEmpty then ["-"] else p.operands
    let (read, failed) ← readInputs inv names plainReport
    let delims := match p.last? "d" with
      | some d => if d.isEmpty then [] else Octets.toBytes d
      | none => [9]
    let delimAt (i : Nat) : List UInt8 := if delims.isEmpty then [] else [delims.getD (i % delims.length) 9]
    let joinWith (cells : List (List UInt8)) : List UInt8 :=
      match cells with
      | [] => []
      | c :: rest => (rest.zipIdx.foldl (fun acc (x, i) => acc ++ delimAt i ++ x) c)
    if p.has "s" then
      for (_, bs) in read do emit (joinWith (lines bs) ++ [10])
    else
      let columns := read.map fun (_, bs) => lines bs
      let rows := (columns.map (·.length)).foldl max 0
      for r in List.range rows do
        emit (joinWith (columns.map fun c => c.getD r []) ++ [10])
    closeOutput inv (if failed then 1 else 0)

/-! ## `wc` -/

/-- The counts of some bytes: lines, words, bytes, and the longest line's width. -/
structure Counts where
  lines : Nat := 0
  words : Nat := 0
  bytes : Nat := 0
  longest : Nat := 0

/-- Whether a byte separates words. -/
def isBlankByte (b : UInt8) : Bool := b == 32 || (9 ≤ b && b ≤ 13)

/-- Count the lines, words, bytes and the longest line: tabs go to the next multiple of 8,
a carriage return or form feed starts the width again, and control characters take none. -/
def countBytes (bs : List UInt8) : Counts :=
  let step (acc : Counts × Bool × Nat) (b : UInt8) : Counts × Bool × Nat :=
    let (c, inWord, col) := acc
    let c := { c with bytes := c.bytes + 1 }
    if b == 10 then ({ c with lines := c.lines + 1, longest := max c.longest col }, false, 0)
    else if b == 13 || b == 12 then ({ c with longest := max c.longest col }, false, 0)
    else if isBlankByte b then
      (c, false, if b == 9 then col + 8 - col % 8 else if b == 32 then col + 1 else col)
    else
      (if inWord then c else { c with words := c.words + 1 }, true, if b < 32 || b == 127 then col else col + 1)
  let (c, _, col) := bs.foldl step ({}, false, 0)
  { c with longest := max c.longest col }

/-- The options of `wc`. -/
def wcSpec : Spec :=
  { opts := [flag "c" 'c' "bytes", flag "m" 'm' "chars", flag "l" 'l' "lines",
      longOnly "files0" "files0-from" .required, flag "L" 'L' "max-line-length", flag "w" 'w' "words",
      longOnly "total" "total" .required] ++ standard }

/-- `wc`: counts of each input, in columns. -/
def wc (inv : Invocation) : UtilM :=
  withOptions inv wcSpec 1 fun p => do
    let chosen := ["l", "w", "m", "c", "L"].filter p.has
    let chosen := if chosen.isEmpty then ["l", "w", "c"] else chosen
    let names := if p.operands.isEmpty then ["-"] else p.operands
    let s ← get
    -- the width: that of the total size of the regular files, at least 7 when an input is
    -- not a regular file, 1 when one count of one input is asked
    let regular (n : String) : Option Nat :=
      if n == "-" then
        match s.fd? 0 with
        | some (.file id) =>
          match s.openFile? id with
          | some f => match s.files.lookup f.loc with
            | some (.file data _) => some data.size
            | _ => none
          | none => none
        | _ => none
      else match s.stat n with
        | .ok (.file data _) => some data.size
        | _ => none
    let anyFailed := names.any fun n => n != "-" && (s.stat n).toOption.isNone
    let width :=
      if chosen.length == 1 && names.length == 1 then 1
      else if names.headD "-" != "-" && (s.stat (names.headD "-")).toOption.isNone then 1
      else
        let sizes := names.filter (fun n => n == "-" || (s.stat n).toOption.isSome) |>.map regular
        let total := sizes.foldl (fun acc x => acc + x.getD 0) 0
        let digits := (toString total).length
        if sizes.any Option.isNone then max 7 digits else digits
    let _ := anyFailed
    let cell (c : Counts) (k : String) : Nat :=
      match k with
      | "l" => c.lines
      | "w" => c.words
      | "L" => c.longest
      | _ => c.bytes
    let row (c : Counts) (label : Option String) : String :=
      let cells := chosen.map fun k =>
        let d := toString (cell c k)
        String.ofList (List.replicate (width - d.length) ' ') ++ d
      " ".intercalate cells ++ (match label with
        | some l => " " ++ l
        | none => "") ++ "\n"
    let mut status := 0
    let mut total : Counts := {}
    for n in names do
      match ← readSource n with
      | .ok bs =>
        let c := countBytes bs
        total := { lines := total.lines + c.lines, words := total.words + c.words,
                   bytes := total.bytes + c.bytes, longest := max total.longest c.longest }
        emitText (row c (if p.operands.isEmpty then none else some n))
      | .error e =>
        complain inv (plainReport n e)
        status := 1
        if e == .isADirectory then emitText (row {} (some n))
    let totalMode := (p.last? "total").getD "auto"
    if (totalMode == "auto" && names.length > 1) || totalMode == "always" then
      emitText (row total (some "total"))
    else if totalMode == "only" then
      emitText (row total none)
    closeOutput inv status

/-! ## `yes` and `seq` -/

/-- How many bytes `yes` writes before its reader has had enough. -/
def yesLimit : Nat := 65536

/-- `yes [text...]`: the text (or `y`) on line after line. -/
def yes (inv : Invocation) : UtilM :=
  withOptions inv { opts := standard, inOrder := true } 1 fun p => do
    let args := p.operands
    let line := Octets.toBytes ((if args.isEmpty then "y" else " ".intercalate args) ++ "\n")
    let times := yesLimit / line.length + 1
    emit ((List.replicate times line).flatten)
    pure 0

/-- A decimal number of `seq`: its value as a ratio of integers, and how many digits stand
after its point. -/
structure SeqNumber where
  num : Int
  den : Nat
  places : Nat

/-- Read a decimal number of `seq`: an optional sign, digits, and an optional fraction. -/
def seqNumber? (s : String) : Option SeqNumber :=
  let cs := s.toList.dropWhile isBlankChar
  let (negative, body) := match cs with
    | '-' :: r => (true, r)
    | '+' :: r => (false, r)
    | _ => (false, cs)
  let whole := body.takeWhile Char.isDigit
  let rest := body.drop whole.length
  let frac := match rest with
    | '.' :: f => f
    | _ => []
  let ok := match rest with
    | [] => !whole.isEmpty
    | '.' :: f => f.all Char.isDigit && !(whole.isEmpty && f.isEmpty)
    | _ => false
  if !ok then none
  else
    let digits := whole ++ frac
    let n : Nat := digits.foldl (fun v c => 10 * v + (c.toNat - 48)) 0
    some { num := if negative then -(n : Int) else n, den := Nat.pow 10 frac.length, places := frac.length }
where
  isBlankChar (c : Char) : Bool := c == ' ' || c == '\t' || c == '\n'

/-- A ratio written with a number of digits after the point, rounded to nearest. -/
def fixedText (num : Int) (den : Nat) (places : Nat) : String :=
  let scale := Nat.pow 10 places
  let mag := num.natAbs * scale
  let q := (2 * mag + den) / (2 * den)
  let digits := toString q
  let digits := String.ofList (List.replicate (places + 1 - digits.length) '0') ++ digits
  let intPart := String.ofList (digits.toList.take (digits.length - places))
  let fracPart := String.ofList (digits.toList.drop (digits.length - places))
  (if num < 0 && q != 0 then "-" else "") ++ intPart ++ (if places == 0 then "" else "." ++ fracPart)

/-- `seq [first [increment]] last`: the numbers from `first` by `increment` up to `last`,
with as many digits after the point as the first number and the increment have. -/
def seq (inv : Invocation) : UtilM :=
  -- the options come first, and a negative number ends them
  let isNumber (a : String) : Bool := (seqNumber? a).isSome
  withOptions { inv with args := inv.args.map fun a => if isNumber a && a.startsWith "-" then "\x01" ++ a else a }
      { opts := [withArg "f" 'f' "format", withArg "s" 's' "separator", flag "w" 'w' "equal-width"] ++
        standard, inOrder := true } 1 fun p => do
    let operands := p.operands.map fun a => if a.startsWith "\x01" then String.ofList (a.toList.drop 1) else a
    let sep := (p.last? "s").getD "\n"
    let parsed := operands.map fun a => (a, seqNumber? a)
    match parsed.find? (·.2.isNone) with
    | some (bad, _) =>
      misuse inv ("invalid floating point argument: " ++ quoteAlways bad) 1
    | none =>
      let nums := parsed.filterMap (·.2)
      let one : SeqNumber := { num := 1, den := 1, places := 0 }
      let (first, step, last) := match nums with
        | [l] => (some one, some one, some l)
        | [f, l] => (some f, some one, some l)
        | [f, i, l] => (some f, some i, some l)
        | _ => (none, none, none)
      match first, step, last with
      | some f, some i, some l =>
        if i.num == 0 then
          return (← misuse inv ("invalid Zero increment value: " ++ quoteAlways (operands.getD 1 "")) 1)
        let places := max f.places i.places
        let den := f.den * i.den * l.den
        let fN := f.num * (den / f.den : Nat)
        let iN := i.num * (den / i.den : Nat)
        let lN := l.num * (den / l.den : Nat)
        let count : Nat :=
          if iN > 0 then (if lN < fN then 0 else ((lN - fN) / iN).toNat + 1)
          else (if lN > fN then 0 else ((fN - lN) / (-iN)).toNat + 1)
        let texts := (List.range count).map fun (k : Nat) => fixedText (fN + Int.ofNat k * iN) den places
        let width := (texts.map String.length).foldl max 0
        let pad (t : String) : String :=
          if p.has "w" then
            let neg := t.startsWith "-"
            let body := if neg then String.ofList (t.toList.drop 1) else t
            (if neg then "-" else "") ++ String.ofList (List.replicate (width - t.length) '0') ++ body
          else t
        if !texts.isEmpty then emitText (sep.intercalate (texts.map pad) ++ "\n")
        closeOutput inv 0
      | _, _, _ =>
        if operands.isEmpty then misuse inv "missing operand" 1
        else misuse inv ("extra operand " ++ quoteAlways (operands.getD 3 "")) 1

end Utility

end HostAgent.Shell
