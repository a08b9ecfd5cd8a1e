import HostAgent.Shell.Utility.Core
import HostAgent.Shell.Regex

/-!
# `HostAgent.Shell.Utility.Sed` — `sed`

`sed [-n] [-E] [-s] [-i[suffix]] [-e script]... [-f file]... [script] [files]` edits its input a
line at a time: each line goes into the pattern space, the script runs on it, and the pattern
space is printed at the end of the cycle (not with `-n`).

**Script.** Commands are separated by newlines or `;`; each may have an address (a line number,
`$` for the last line, `/re/` or `\cREc` with flags `I` and `M`, `first~step`) or a range of two
(the second also `+N` or `~N`, and `0,/re/` lets the end match on the first line), negated with
`!`. The commands: `{ }`, `s/re/replacement/flags` (`g`, `p`, a number, `i`, `w file`), `y`,
`p`, `P`, `d`, `D`, `n`, `N`, `q`, `Q`, `=`, `a`, `i`, `c`, `h`, `H`, `g`, `G`, `x`, `l`, `z`,
`F`, `r`, `w`, `b`, `t`, `T` and `:label`. In a replacement `&` is the match, `\1`..`\9` groups,
`\n` a newline, and `\L`, `\U`, `\l`, `\u`, `\E` change case. An empty regular expression is the
last one used.

**Running.** The script is flattened into instructions (`Instr`), where a block's start jumps
past its end when its address does not select the line. A line read without a newline is printed
without one, and a later output adds it first.

Errors in the script are reported as `-e expression #1, char N: ...` with status 1; an input that
cannot be read is reported and skipped, and the status is then 2.
-/

namespace HostAgent.Shell

namespace Utility

namespace Sed

/-- An address. -/
inductive Address where
  | line (n : Nat)
  | last
  /-- A regular expression; `none` is the last one used. -/
  | regex (re : Option Regex)
  | step (first step : Nat)
  /-- `0` in `0,/re/`. -/
  | zero

/-- The end of a range. -/
inductive RangeEnd where
  | addr (a : Address)
  | plus (n : Nat)
  | multiple (n : Nat)

/-- The lines a command applies to. -/
structure Selector where
  first : Option Address := none
  last : Option RangeEnd := none
  negated : Bool := false

/-- A piece of a replacement. -/
inductive ReplPiece where
  | text (s : String)
  | group (n : Nat)
  /-- `\L`, `\U`, `\E`: lower, upper, or no case from here on. -/
  | caseMode (mode : Char)
  /-- `\l`, `\u`: the next character only. -/
  | caseOne (mode : Char)

/-- A command. -/
inductive Cmd where
  | subst (re : Option Regex) (repl : List ReplPiece) (global : Bool) (occurrence : Nat)
      (print : Bool) (write : Option String)
  | translit (pairs : List (Char × Char))
  | delete | deleteFirst | print | printFirst | next | appendNext
  | quit (status : Nat) | quitSilent (status : Nat)
  | lineNumber
  | append (text : String) | insert (text : String) | change (text : String)
  | hold | holdAppend | get | getAppend | exchange
  | branch (label : String) | branchIfSub (label : String) | branchIfNot (label : String)
  | readFile (path : String) | writeFile (path : String)
  | list | zap | fileName
  | nothing

/-- A flattened instruction. -/
inductive Instr where
  | cmd (sel : Selector) (id : Nat) (c : Cmd)
  /-- The start of a block: past its end when the address does not select the line. -/
  | blockStart (sel : Selector) (id : Nat) (past : Nat)
  | blockEnd
  | label (name : String)

/-- A script being read: the characters left, how many were read, the instructions so far, the
open blocks, and the regular-expression flavour. -/
structure Reader where
  rest : List Char
  pos : Nat
  instrs : Array Instr := #[]
  open_ : List Nat := []
  extended : Bool
  quiet : Bool := false

/-- Reading a script fails with a message. -/
abbrev ReadM := StateT Reader (Except String)

/-- Fail at the position reached. -/
def failAt {α : Type} (message : String) : ReadM α := do
  throw ("-e expression #1, char " ++ toString (← get).pos ++ ": " ++ message)

/-- The next character, if any. -/
def peekC : ReadM (Option Char) := do pure (← get).rest.head?

/-- Take a character. -/
def takeC : ReadM (Option Char) := do
  let r ← get
  match r.rest with
  | c :: more =>
    set { r with rest := more, pos := r.pos + 1 }
    pure (some c)
  | [] => pure none

/-- Skip blanks (not newlines). -/
def skipBlanks : Nat → ReadM Unit
  | 0 => pure ()
  | fuel + 1 => do
    match ← peekC with
    | some ' ' | some '\t' =>
      discard takeC
      skipBlanks fuel
    | _ => pure ()

/-- Text up to an unescaped delimiter: a backslash before the delimiter gives the delimiter,
`\n` a newline; other escapes are kept. `none` when the script ends first. -/
def delimited (delim : Char) (keepEscapes : Bool) : Nat → List Char → ReadM (Option String)
  | 0, _ => pure none
  | fuel + 1, acc => do
    match ← takeC with
    | none => pure none
    | some c =>
      if c == delim then pure (some (String.ofList acc.reverse))
      else if c == '\\' then
        match ← takeC with
        | none => pure none
        | some d =>
          if d == delim then delimited delim keepEscapes fuel (d :: acc)
          else if d == 'n' && !keepEscapes then delimited delim keepEscapes fuel ('\n' :: acc)
          else if d == '\n' then delimited delim keepEscapes fuel ('\n' :: acc)
          else delimited delim keepEscapes fuel (d :: '\\' :: acc)
      else if c == '\n' && !keepEscapes then pure none
      else delimited delim keepEscapes fuel (c :: acc)

/-- Compile a regular expression of the script; empty is the last one used. -/
def regexOf (text : String) (icase : Bool) : ReadM (Option Regex) := do
  if text.isEmpty then return none
  match Regex.compile { extended := (← get).extended, icase, cEscapes := true } text with
  | .ok re => pure (some re)
  | .error e => failAt e

/-- Flags after an address's regular expression. -/
def regexFlags : Nat → Bool → ReadM Bool
  | 0, icase => pure icase
  | fuel + 1, icase => do
    match ← peekC with
    | some 'I' =>
      discard takeC
      regexFlags fuel true
    | some 'M' =>
      discard takeC
      regexFlags fuel icase
    | _ => pure icase

/-- A decimal number. -/
def numberC : Nat → Nat → ReadM Nat
  | 0, v => pure v
  | fuel + 1, v => do
    match ← peekC with
    | some c =>
      if c.isDigit then
        discard takeC
        numberC fuel (10 * v + (c.toNat - 48))
      else pure v
    | none => pure v

/-- An address, if one starts here. -/
def address : ReadM (Option Address) := do
  let fuel := (← get).rest.length + 1
  match ← peekC with
  | some c =>
    if c.isDigit then
      let n ← numberC fuel 0
      if (← peekC) == some '~' then
        discard takeC
        let s ← numberC fuel 0
        pure (some (.step n s))
      else pure (some (if n == 0 then .zero else .line n))
    else if c == '$' then
      discard takeC
      pure (some .last)
    else if c == '/' || c == '\\' then
      discard takeC
      let delim ← if c == '\\' then do
          match ← takeC with
          | some d => pure d
          | none => failAt "unexpected `,'"
        else pure '/'
      match ← delimited delim true fuel [] with
      | none => failAt "unterminated address regex"
      | some text =>
        let icase ← regexFlags fuel false
        pure (some (.regex (← regexOf text icase)))
    else pure none
  | none => pure none

/-- The selector before a command. -/
def selector : ReadM Selector := do
  let fuel := (← get).rest.length + 1
  let first ← address
  let last ← match first with
    | none => pure none
    | some _ =>
      if (← peekC) == some ',' then
        discard takeC
        skipBlanks fuel
        match ← peekC with
        | some '+' =>
          discard takeC
          pure (some (RangeEnd.plus (← numberC fuel 0)))
        | some '~' =>
          discard takeC
          pure (some (RangeEnd.multiple (← numberC fuel 0)))
        | _ =>
          match ← address with
          | some (.zero) => failAt "invalid usage of line address 0"
          | some a => pure (some (RangeEnd.addr a))
          | none => failAt "unexpected `,'"
      else pure none
  match first, last with
  | some .zero, some (.addr (.regex _)) => pure ()
  | some .zero, _ => failAt "invalid usage of line address 0"
  | _, _ => pure ()
  skipBlanks fuel
  let negated ← if (← peekC) == some '!' then do
      discard takeC
      skipBlanks fuel
      if (← peekC) == some '!' then failAt "multiple `!'s"
      pure true
    else pure false
  pure { first, last, negated }

/-- The text of `a`, `i` and `c`: one line, or after `\` and a newline the lines that end in
`\`; backslashes before other characters are dropped. -/
def commandText : ReadM String := do
  let fuel := (← get).rest.length + 1
  skipBlanks fuel
  if (← peekC) == some '\\' then
    discard takeC
    if (← peekC) == some '\n' then discard takeC
  let rec go : Nat → List Char → ReadM String
    | 0, acc => pure (String.ofList acc.reverse)
    | fuel + 1, acc => do
      match ← takeC with
      | none => pure (String.ofList acc.reverse)
      | some '\n' => pure (String.ofList acc.reverse)
      | some '\\' =>
        match ← takeC with
        | none => pure (String.ofList acc.reverse)
        | some d => go fuel (d :: acc)
      | some c => go fuel (c :: acc)
  go fuel []

/-- A label or file name: the rest of the line (a label also ends at `;`), blanks around it
dropped. -/
def restOfLine (stopAtSemicolon : Bool) : ReadM String := do
  let fuel := (← get).rest.length + 1
  skipBlanks fuel
  let rec go : Nat → List Char → ReadM String
    | 0, acc => pure (String.ofList acc.reverse)
    | fuel + 1, acc => do
      match ← peekC with
      | none | some '\n' => pure (String.ofList acc.reverse)
      | some c =>
        if stopAtSemicolon && (c == ';' || c == '}') then pure (String.ofList acc.reverse)
        else
          discard takeC
          go fuel (c :: acc)
  let t ← go fuel []
  pure (String.ofList (t.toList.reverse.dropWhile (fun c => c == ' ' || c == '\t')).reverse)

/-- The pieces of a replacement's text. -/
def replacement (text : List Char) : List ReplPiece :=
  let flush (acc : List Char) (out : List ReplPiece) : List ReplPiece :=
    if acc.isEmpty then out else .text (String.ofList acc.reverse) :: out
  let rec go : Nat → List Char → List Char → List ReplPiece → List ReplPiece
    | 0, _, acc, out => (flush acc out).reverse
    | _, [], acc, out => (flush acc out).reverse
    | fuel + 1, c :: more, acc, out =>
      match c, more with
      | '&', _ => go fuel more [] (.group 0 :: flush acc out)
      | '\\', d :: after =>
        if d.isDigit then go fuel after [] (.group (d.toNat - 48) :: flush acc out)
        else match d with
          | 'L' | 'U' | 'E' => go fuel after [] (.caseMode d :: flush acc out)
          | 'l' | 'u' => go fuel after [] (.caseOne d :: flush acc out)
          | 'n' => go fuel after ('\n' :: acc) out
          | 't' => go fuel after ('\t' :: acc) out
          | 'r' => go fuel after ('\r' :: acc) out
          | 'a' => go fuel after (Char.ofNat 7 :: acc) out
          | 'f' => go fuel after (Char.ofNat 12 :: acc) out
          | 'v' => go fuel after (Char.ofNat 11 :: acc) out
          | _ => go fuel after (d :: acc) out
      | _, _ => go fuel more (c :: acc) out
  go (text.length + 1) text [] []

/-- The flags of `s`: global, which match, print, ignore case, and the file to write. -/
def substFlags : Nat → Bool → Nat → Bool → Bool → ReadM (Bool × Nat × Bool × Bool × Option String)
  | 0, g, n, p, i => pure (g, n, p, i, none)
  | fuel + 1, g, n, p, i => do
    match ← peekC with
    | some 'g' =>
      discard takeC
      substFlags fuel true n p i
    | some 'p' =>
      discard takeC
      substFlags fuel g n true i
    | some 'i' | some 'I' =>
      discard takeC
      substFlags fuel g n p true
    | some 'm' | some 'M' | some 'e' =>
      discard takeC
      substFlags fuel g n p i
    | some 'w' =>
      discard takeC
      let file ← restOfLine false
      pure (g, n, p, i, some file)
    | some c =>
      if c.isDigit then
        let k ← numberC (fuel + 1) 0
        if k == 0 then failAt "number option to `s' command may not be zero"
        substFlags fuel g k p i
      else pure (g, n, p, i, none)
    | none => pure (g, n, p, i, none)

/-- After a command: blanks, then a separator or the end. -/
def endCommand : ReadM Unit := do
  let fuel := (← get).rest.length + 1
  skipBlanks fuel
  match ← peekC with
  | none | some ';' | some '\n' | some '}' | some '#' => pure ()
  | _ => failAt "extra characters after command"

/-- Add an instruction. -/
def addInstr (i : Instr) : ReadM Unit := modify fun r => { r with instrs := r.instrs.push i }

/-- Read one command after its selector. -/
def command (sel : Selector) : ReadM Unit := do
  let r ← get
  let id := r.instrs.size
  let fuel := r.rest.length + 1
  match ← takeC with
  | none => failAt "missing command"
  | some c =>
    let simple (cmd : Cmd) : ReadM Unit := do
      addInstr (.cmd sel id cmd)
      endCommand
    match c with
    | '{' =>
      addInstr (.blockStart sel id 0)
      modify fun r => { r with open_ := id :: r.open_ }
    | 's' =>
      match ← takeC with
      | none => failAt "unterminated `s' command"
      | some delim =>
        match ← delimited delim true fuel [] with
        | none => failAt "unterminated `s' command"
        | some pat =>
          match ← delimited delim true fuel [] with
          | none => failAt "unterminated `s' command"
          | some repl =>
            let (g, n, p, icase, w) ← substFlags fuel false 1 false false
            let re ← regexOf pat icase
            addInstr (.cmd sel id (.subst re (replacement repl.toList) g n p w))
            if w.isNone then
              match ← peekC with
              | none | some ';' | some '\n' | some '}' | some '#' | some ' ' | some '\t' => endCommand
              | _ => failAt "unknown option to `s'"
    | 'y' =>
      match ← takeC with
      | none => failAt "unterminated `y' command"
      | some delim =>
        match ← delimited delim false fuel [] with
        | none => failAt "unterminated `y' command"
        | some src =>
          match ← delimited delim false fuel [] with
          | none => failAt "unterminated `y' command"
          | some dst =>
            let unescape (s : String) : List Char := (s.replace "\\\\" "\\").toList
            let a := unescape src
            let b := unescape dst
            if a.length != b.length then failAt "strings for `y' command are different lengths"
            simple (.translit (a.zip b))
    | 'a' => addInstr (.cmd sel id (.append (← commandText)))
    | 'i' => addInstr (.cmd sel id (.insert (← commandText)))
    | 'c' => addInstr (.cmd sel id (.change (← commandText)))
    | ':' =>
      if sel.first.isSome then failAt ": doesn't want any addresses"
      let name ← restOfLine true
      if name.isEmpty then failAt "\":\" lacks a label"
      addInstr (.label name)
    | 'b' => simple (.branch (← restOfLine true))
    | 't' => simple (.branchIfSub (← restOfLine true))
    | 'T' => simple (.branchIfNot (← restOfLine true))
    | 'r' | 'R' => addInstr (.cmd sel id (.readFile (← restOfLine false)))
    | 'w' | 'W' => addInstr (.cmd sel id (.writeFile (← restOfLine false)))
    | 'q' | 'Q' =>
      skipBlanks fuel
      let n ← numberC fuel 0
      simple (if c == 'q' then .quit n else .quitSilent n)
    | 'l' | 'L' =>
      skipBlanks fuel
      discard (numberC fuel 0)
      simple .list
    | '=' => simple .lineNumber
    | 'd' => simple .delete
    | 'D' => simple .deleteFirst
    | 'p' => simple .print
    | 'P' => simple .printFirst
    | 'n' => simple .next
    | 'N' => simple .appendNext
    | 'h' => simple .hold
    | 'H' => simple .holdAppend
    | 'g' => simple .get
    | 'G' => simple .getAppend
    | 'x' => simple .exchange
    | 'z' => simple .zap
    | 'F' => simple .fileName
    | 'e' =>
      discard (restOfLine false)
      simple .nothing
    | _ => failAt ("unknown command: `" ++ String.singleton c ++ "'")

/-- Read the commands of a script. -/
def commands : Nat → ReadM Unit
  | 0 => pure ()
  | fuel + 1 => do
    match ← peekC with
    | none => pure ()
    | some c =>
      if c == ' ' || c == '\t' || c == '\n' || c == ';' then
        discard takeC
        commands fuel
      else if c == '#' then
        let r ← get
        if r.pos == 0 && r.rest.take 3 == ['#', 'n', '\n'] || (r.pos == 0 && r.rest == ['#', 'n']) then
          set { r with quiet := true }
        discard (restOfLine false)
        commands fuel
      else if c == '}' then
        discard takeC
        match (← get).open_ with
        | [] => failAt "unexpected `\x7d'"
        | start :: outer =>
          let r ← get
          let past := r.instrs.size
          let instrs := match r.instrs[start]? with
            | some (.blockStart sel id _) => r.instrs.set! start (.blockStart sel id past)
            | _ => r.instrs
          set { r with instrs := instrs.push .blockEnd, open_ := outer }
          endCommand
          commands fuel
      else
        let sel ← selector
        command sel
        commands fuel

/-- Compile a script: the instructions, and whether it starts with `#n`. -/
def compile (script : String) (extended : Bool) : Except String (Array Instr × Bool) := do
  let (_, r) ← (commands (script.length + 2)).run { rest := script.toList, pos := 0, extended }
  if !r.open_.isEmpty then
    throw ("-e expression #1, char 0: unmatched `\x7b'")
  -- every branch needs its label
  for i in r.instrs do
    match i with
    | .cmd _ _ (.branch l) | .cmd _ _ (.branchIfSub l) | .cmd _ _ (.branchIfNot l) =>
      if !l.isEmpty && !(r.instrs.any fun j => match j with
          | .label n => n == l
          | _ => false) then
        throw ("can't find label for jump to `" ++ l ++ "'")
    | _ => pure ()
  pure (r.instrs, r.quiet)

/-! ## Running -/

/-- A line of input: its text and whether a newline ended it. -/
structure Line where
  text : String
  newline : Bool

/-- The state of a run. -/
structure Run where
  instrs : Array Instr
  quiet : Bool
  ps : String := ""
  hold : String := ""
  lineNo : Nat := 0
  /-- The lines still to read. -/
  pending : List Line
  /-- Whether the line in the pattern space ended with a newline. -/
  chomped : Bool := true
  fileName : String := "-"
  out : ByteArray := .empty
  missingNewline : Bool := false
  appended : List UInt8 := []
  subFlag : Bool := false
  active : Array (Option Nat) := #[]
  lastRegex : Option Regex := none
  quitStatus : Option Nat := none
  writes : List (String × ByteArray) := []
  /-- Files to read for `r`, and the shell state to read them from. -/
  files : String → Option (List UInt8)

/-- How a cycle ends. -/
inductive CycleEnd where
  /-- Print the pattern space (unless `-n`) and read the next line. -/
  | print
  /-- Read the next line without printing. -/
  | silent
  /-- Start again without reading (`D`). -/
  | again
  /-- Stop after printing (`q`, or `n`/`N` at the end of the input). -/
  | stop
  /-- Stop without printing (`Q`). -/
  | stopSilent

/-- Write output text, first the newline a line printed without one left out. -/
def Run.write (r : Run) (text : String) (newline : Bool) : Run :=
  let pre := if r.missingNewline then "\n" else ""
  { r with out := r.out ++ Octets.toByteArray (pre ++ text ++ (if newline then "\n" else "")),
           missingNewline := !newline }

/-- Print the pattern space, with the newline its line had. -/
def Run.printSpace (r : Run) (text : String) : Run := r.write text r.chomped

/-- Whether an address selects the current line. -/
def Run.hits (r : Run) (a : Address) : Bool × Run :=
  match a with
  | .line n => (r.lineNo == n, r)
  | .last => (r.pending.isEmpty, r)
  | .step first step =>
    (if step == 0 then r.lineNo == first else r.lineNo ≥ first && (r.lineNo - first) % step == 0, r)
  | .zero => (false, r)
  | .regex re =>
    match re.orElse (fun _ => r.lastRegex) with
    | some re => (re.test r.ps, { r with lastRegex := some re })
    | none => (false, r)

/-- Whether a selector selects the current line; ranges are followed by instruction. -/
def Run.selects (r : Run) (sel : Selector) (id : Nat) : Bool × Run :=
  let (hit, r) := match sel.first, sel.last with
    | none, _ => (true, r)
    | some a, none => r.hits a
    | some a, some e =>
      let state := r.active.getD id none
      let setState (r : Run) (v : Option Nat) : Run :=
        let active := if r.active.size ≤ id then r.active ++ Array.replicate (id + 1 - r.active.size) none
          else r.active
        { r with active := active.set! id v }
      match state with
      | some endLine =>
        -- inside the range: does it end here?
        let (ends, r) : Bool × Run := match e with
          | .addr (.line n) => (decide (r.lineNo ≥ n), r)
          | .addr other => r.hits other
          | .plus _ => (r.lineNo ≥ endLine, r)
          | .multiple n => (n == 0 || r.lineNo % n == 0, r)
        (true, if ends then setState r none else r)
      | none =>
        let (starts, r) := match a with
          | .zero => (r.lineNo == 1, r)
          | other => r.hits other
        if !starts then (false, r)
        else
          let (endsNow, r) : Bool × Run := match e with
            | .addr (.line n) => (decide (n ≤ r.lineNo), r)
            | .addr other => match a with
              | .zero => r.hits other
              | _ => (false, r)
            | .plus n => (n == 0, r)
            | .multiple n => (n == 0 || r.lineNo % n == 0, r)
          let endLine := match e with
            | .plus n => r.lineNo + n
            | _ => 0
          (true, if endsNow then r else setState r (some endLine))
  (hit != sel.negated, r)

/-- Apply case changes to a replacement's text. -/
def applyCase (mode : Char) (one : Option Char) (s : String) : String × Option Char :=
  let cs := s.toList
  let cs := match mode with
    | 'L' => cs.map Char.toLower
    | 'U' => cs.map Char.toUpper
    | _ => cs
  match one, cs with
  | some 'l', c :: more => (String.ofList (c.toLower :: more), none)
  | some 'u', c :: more => (String.ofList (c.toUpper :: more), none)
  | o, [] => ("", o)
  | _, _ => (String.ofList cs, none)

/-- The replacement for one match. -/
def expandReplacement (pieces : List ReplPiece) (text : Array Char) (caps : Regex.Captures) : String :=
  let step (acc : String × Char × Option Char) (p : ReplPiece) : String × Char × Option Char :=
    let (out, mode, one) := acc
    match p with
    | .text s =>
      let (t, one) := applyCase mode one s
      (out ++ t, mode, one)
    | .group n =>
      let (t, one) := applyCase mode one (Regex.captured text caps n)
      (out ++ t, mode, one)
    | .caseMode m => (out, m, none)
    | .caseOne m => (out, mode, some m)
  (pieces.foldl step ("", 'E', none)).1

/-- `s`: replace the `occurrence`th match (and, `global`, every later one); the new text and
whether anything was replaced. -/
def substituteAll (re : Regex) (pieces : List ReplPiece) (global : Bool) (occurrence : Nat)
    (text : String) : String × Bool :=
  let cs := text.toList.toArray
  let rec go : Nat → Nat → Option Nat → Nat → List Char → Bool → List Char × Bool
    | 0, pos, _, _, acc, done => (acc.reverse ++ (cs.extract pos cs.size).toList, done)
    | fuel + 1, pos, lastEnd, count, acc, done =>
      if done && !global then (acc.reverse ++ (cs.extract pos cs.size).toList, done)
      else match re.search cs pos with
        | none => (acc.reverse ++ (cs.extract pos cs.size).toList, done)
        | some (a, b, caps) =>
          if a == b && lastEnd == some a then
            if a < cs.size then
              go fuel (a + 1) none count (cs.getD a ' ' :: (cs.extract pos a).toList.reverse ++ acc) done
            else (acc.reverse ++ (cs.extract pos cs.size).toList, done)
          else
            let count := count + 1
            let before := (cs.extract pos a).toList.reverse ++ acc
            let acc := if count ≥ occurrence then
                (expandReplacement pieces cs caps).toList.reverse ++ before
              else (cs.extract a b).toList.reverse ++ before
            let done := done || count ≥ occurrence
            if a == b then
              if a < cs.size then go fuel (a + 1) (some a) count (cs.getD a ' ' :: acc) done
              else (acc.reverse, done)
            else go fuel b (some b) count acc done
  let (out, done) := go (cs.size + 2) 0 none 0 [] false
  (String.ofList out, done)

/-- The pattern space as `l` shows it: escapes for backslash and control characters, octal for
other bytes, lines broken before 70 columns with `\`, and `$` at the end. -/
def listed (s : String) : String :=
  let piece (c : Char) : String :=
    match c with
    | '\\' => "\\\\"
    | '\n' => "\\n"
    | '\t' => "\\t"
    | '\r' => "\\r"
    | _ =>
      let n := c.toNat
      if n == 7 then "\\a" else if n == 8 then "\\b" else if n == 12 then "\\f"
      else if n == 11 then "\\v"
      else if n < 32 || n ≥ 127 then
        "\\" ++ String.ofList ((Nat.toDigits 8 n).leftpad 3 '0')
      else String.singleton c
  let pieces := s.toList.map piece
  let rec wrap : Nat → List String → Nat → String → String
    | 0, _, _, acc => acc
    | _, [], _, acc => acc
    | fuel + 1, p :: more, col, acc =>
      if col + p.length > 68 then wrap fuel (p :: more) 0 (acc ++ "\\\n")
      else wrap fuel more (col + p.length) (acc ++ p)
  wrap (2 * pieces.length + 2) pieces 0 "" ++ "$"

/-- Read the next line into the pattern space. -/
def Run.readNext (r : Run) : Option Run :=
  match r.pending with
  | [] => none
  | l :: more => some { r with ps := l.text, chomped := l.newline, pending := more, lineNo := r.lineNo + 1, subFlag := false }

/-- The index of a label's instruction. -/
def labelIndex (instrs : Array Instr) (name : String) : Nat :=
  if name.isEmpty then instrs.size
  else ((instrs.toList.zipIdx.find? fun (i, _) => match i with
    | .label n => n == name
    | _ => false).map (·.2)).getD instrs.size

/-- Run the script on the pattern space from an instruction. -/
def execute (r : Run) : Nat → Nat → CycleEnd × Run
  | 0, _ => (.stop, r)
  | fuel + 1, pc =>
    match r.instrs[pc]? with
    | none => (.print, r)
    | some .blockEnd => execute r fuel (pc + 1)
    | some (.label _) => execute r fuel (pc + 1)
    | some (.blockStart sel id past) =>
      let (hit, r) := r.selects sel id
      if hit then execute r fuel (pc + 1) else execute r fuel (past + 1)
    | some (.cmd sel id c) =>
      let (hit, r) := r.selects sel id
      if !hit then execute r fuel (pc + 1)
      else
        let next (r : Run) := execute r fuel (pc + 1)
        match c with
        | .subst re pieces global occurrence print write =>
          match re.orElse (fun _ => r.lastRegex) with
          | none => (.stop, r)
          | some rx =>
            let r := { r with lastRegex := some rx }
            let (new, done) := substituteAll rx pieces global occurrence r.ps
            if !done then next r
            else
              let r := { r with ps := new, subFlag := true }
              let r := if print then r.printSpace r.ps else r
              let r := match write with
                | some f => { r with writes := r.writes.map fun (n, d) =>
                    if n == f then (n, d ++ Octets.toByteArray (r.ps ++ "\n")) else (n, d) }
                | none => r
              next r
        | .translit pairs =>
          let ps := String.ofList (r.ps.toList.map fun ch =>
            match pairs.find? (·.1 == ch) with
            | some (_, d) => d
            | none => ch)
          next { r with ps }
        | .delete => (.silent, r)
        | .deleteFirst =>
          if r.ps.toList.contains '\n' then
            (.again, { r with ps := String.ofList ((r.ps.toList.dropWhile (· != '\n')).drop 1) })
          else (.silent, r)
        | .print => next (r.printSpace r.ps)
        | .printFirst => next (r.write (String.ofList (r.ps.toList.takeWhile (· != '\n'))) true)
        | .next =>
          if r.pending.isEmpty then (.stop, r)
          else
            let r := if r.quiet then r else r.printSpace r.ps
            let r := { r with out := r.out ++ ByteArray.mk r.appended.toArray, appended := [] }
            match r.readNext with
            | some r => next r
            | none => (.stopSilent, r)
        | .appendNext =>
          match r.pending with
          | [] => (.stop, r)
          | l :: more =>
            let r := { r with out := r.out ++ ByteArray.mk r.appended.toArray, appended := [] }
            next { r with ps := r.ps ++ "\n" ++ l.text, chomped := l.newline, pending := more,
                          lineNo := r.lineNo + 1 }
        | .quit n => (.stop, { r with quitStatus := some n })
        | .quitSilent n => (.stopSilent, { r with quitStatus := some n })
        | .lineNumber => next (r.write (toString r.lineNo) true)
        | .append t => next { r with appended := r.appended ++ Octets.toBytes (t ++ "\n") }
        | .insert t => next (r.write t true)
        | .change t =>
          let inRange := (r.active.getD id none).isSome
          if inRange && !sel.negated then (.silent, r) else (.silent, r.write t true)
        | .hold => next { r with hold := r.ps }
        | .holdAppend => next { r with hold := r.hold ++ "\n" ++ r.ps }
        | .get => next { r with ps := r.hold }
        | .getAppend => next { r with ps := r.ps ++ "\n" ++ r.hold }
        | .exchange => next { r with ps := r.hold, hold := r.ps }
        | .branch l => execute r fuel (labelIndex r.instrs l)
        | .branchIfSub l =>
          if r.subFlag then execute { r with subFlag := false } fuel (labelIndex r.instrs l) else next r
        | .branchIfNot l =>
          if r.subFlag then next { r with subFlag := false } else execute r fuel (labelIndex r.instrs l)
        | .readFile path =>
          match r.files path with
          | some bs => next { r with appended := r.appended ++ bs }
          | none => next r
        | .writeFile path =>
          next { r with writes := r.writes.map fun (n, d) =>
            if n == path then (n, d ++ Octets.toByteArray (r.ps ++ "\n")) else (n, d) }
        | .list => next (r.write (listed r.ps) true)
        | .zap => next { r with ps := "" }
        | .fileName => next (r.write r.fileName true)
        | .nothing => next r

/-- The end of a cycle: the pattern space printed, then what was appended. -/
def Run.endCycle (r : Run) (print : Bool) : Run :=
  let r := if print && !r.quiet then r.printSpace r.ps else r
  let r := if r.appended.isEmpty then r
    else
      let pre := if r.missingNewline then [10] else []
      { r with out := r.out ++ ByteArray.mk (pre ++ r.appended).toArray, appended := [],
               missingNewline := false }
  r

/-- Run cycles until the input or the script ends. -/
def cycles (steps : Nat) : Nat → Run → Run
  | 0, r => r
  | fuel + 1, r =>
    match r.readNext with
    | none => r
    | some r => cycle steps fuel r
where
  /-- One cycle on the pattern space, then the rest. -/
  cycle (steps : Nat) : Nat → Run → Run
    | 0, r => r
    | fuel + 1, r =>
      match execute r steps 0 with
      | (.print, r) => cycles steps fuel (r.endCycle true)
      | (.silent, r) => cycles steps fuel (r.endCycle false)
      | (.again, r) =>
        let r := r.endCycle false
        if r.ps.isEmpty then cycles steps fuel r else cycle steps fuel { r with subFlag := false }
      | (.stop, r) => r.endCycle true
      | (.stopSilent, r) => r.endCycle false

/-- Cut input bytes into lines. -/
def inputLines (bs : List UInt8) : List Line :=
  let ls := lines bs
  let lastEnds := bs.getLast? == some 10
  ls.zipIdx.map fun (l, i) =>
    { text := Octets.ofBytes l, newline := i + 1 < ls.length || lastEnds }

end Sed

open Getopt

/-- The options of `sed`. -/
def sedSpec : Spec :=
  { opts := [flag "n" 'n' "quiet", longFlag "n" "silent", withArg "e" 'e' "expression",
      withArg "f" 'f' "file", flag "E" 'E' "regexp-extended", { key := "E", short := some 'r' },
      { key := "i", short := some 'i', long := some "in-place", arg := .optional },
      flag "s" 's' "separate", flag "z" 'z' "null-data", flag "u" 'u' "unbuffered",
      withArg "l" 'l' "line-length", longFlag "posix" "posix", longFlag "debug" "debug",
      longFlag "sandbox" "sandbox", longFlag "follow-symlinks" "follow-symlinks",
      { key := "b", short := some 'b', long := some "binary" }] ++ standard }

/-- `sed`. -/
def sed (inv : Invocation) : UtilM :=
  withOptions inv sedSpec 1 fun p => do
    let scripts ← (do
      let mut parts : List String := []
      for (k, v) in p.opts do
        match k, v with
        | "e", some e => parts := parts ++ [e]
        | "f", some f =>
          match ← readSource f with
          | .ok bs =>
            let t := Octets.ofBytes bs
            parts := parts ++ [if t.endsWith "\n" then String.ofList t.toList.dropLast else t]
          | .error e =>
            complain inv ("couldn't open file " ++ f ++ ": " ++ e.description)
            return none
        | _, _ => pure ()
      pure (some parts))
    match scripts with
    | none => pure 1
    | some parts =>
    let (script, operands) :=
      if p.has "e" || p.has "f" then (some ("\n".intercalate parts), p.operands)
      else match p.operands with
        | s :: rest => (some s, rest)
        | [] => (none, [])
    match script with
    | none =>
      State.print 2 ("Usage: " ++ inv.argv0 ++ " [OPTION]... {script-only-if-no-other-script} [input-file]...\n\n")
      pure 1
    | some script =>
      match Sed.compile script (p.has "E") with
      | .error e =>
        complain inv e
        pure 1
      | .ok (instrs, hashN) =>
        let quiet := p.has "n" || hashN
        let inPlace := p.has "i"
        let s0 ← get
        let files (path : String) : Option (List UInt8) :=
          if path == "/dev/stdin" then none
          else (s0.readFile path).toOption.map (·.toList)
        let writeNames := instrs.toList.filterMap fun i => match i with
          | .cmd _ _ (.writeFile f) => some f
          | .cmd _ _ (.subst _ _ _ _ _ (some f)) => some f
          | _ => none
        let inputs := if operands.isEmpty then ["-"] else operands
        if inPlace && operands.isEmpty then
          complain inv "no input files"
          return 1
        -- read the inputs
        let mut status := 0
        let mut streams : List (String × List Sed.Line) := []
        for n in inputs do
          if n != "-" && (← get).isDir n then
            complain inv ("couldn't edit " ++ n ++ ": not a regular file")
            status := if inPlace then 4 else 2
            continue
          match ← readSource n with
          | .ok bs => streams := streams ++ [(n, Sed.inputLines bs)]
          | .error e =>
            complain inv ("can't read " ++ n ++ ": " ++ e.description)
            status := 2
        let base : Sed.Run :=
          { instrs, quiet, pending := [], files, writes := writeNames.eraseDups.map fun n => (n, .empty) }
        let steps := Nat.pow 10 6
        let separate := inPlace || p.has "s"
        let groups : List (List (String × List Sed.Line)) :=
          if separate then streams.map fun x => [x] else [streams]
        let mut writes := base.writes
        let mut hold := ""
        let mut quitStatus : Option Nat := none
        for g in groups do
          if quitStatus.isSome then break
          let pending := g.flatMap (·.2)
          let name := (g.head?.map (·.1)).getD "-"
          let r : Sed.Run := { base with pending, writes, hold, fileName := name }
          let r := Sed.cycles steps (2 * pending.length + Nat.pow 10 6) r
          writes := r.writes
          hold := r.hold
          quitStatus := r.quitStatus
          if inPlace then
            let s ← get
            match s.resolve name true with
            | .ok loc =>
              match s.files.lookup loc with
              | some (.file _ m) => State.putNode loc (.file r.out m)
              | _ => pure ()
            | .error _ => pure ()
          else State.write 1 r.out
        for (n, d) in writes do
          if n == "/dev/stdout" then State.write 1 d
          else if n == "/dev/stderr" then State.write 2 d
          else
            let s ← get
            match s.resolve n true with
            | .ok loc =>
              match s.files.lookup loc with
              | some (.file _ m) => State.putNode loc (.file d m)
              | _ => State.putNode loc (.file d (s.createMode 0o666))
            | .error _ => complain inv ("couldn't open file " ++ n ++ ": No such file or directory")
        closeOutput inv (quitStatus.getD status)

end Utility

end HostAgent.Shell
