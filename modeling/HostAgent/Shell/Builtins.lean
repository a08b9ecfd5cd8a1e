import HostAgent.Shell.State
import HostAgent.Shell.Format
import HostAgent.Shell.Fields

/-!
# `HostAgent.Shell.Builtins` — the shell's own commands

The commands the shell runs itself, each a computation on the running shell that sets the
status and says how the shell goes on. Those that run other commands (`eval`, `.`, `exec`,
`command`) are part of the evaluator.

* special builtins, whose errors end the shell: `:`, `break`, `continue`, `exit`, `return`,
  `shift`, `set`, `export`, `readonly`, `unset`, `local`, `trap`;
* regular builtins, whose errors only fail the command with status 2: `true`, `false`, `echo`,
  `printf`, `test` and `[`, `cd`, `pwd`, `read`, `kill`, `umask`, `wait`, `hash`, `type`,
  `getopts`, `times`, `ulimit`, `jobs`, `alias`, `unalias`.

A builtin's error is written as `name: line: builtin: message`. Numbers are read the way the
shell reads them (`shellNumber?`): blanks, an optional sign and decimal digits, at most
`2 ^ 31 - 1` and not negative.

## Contents
- `State.testArgs` — the expression grammar of `test`;
- `State.setOptions`, `State.read`, `State.kill`, `State.trap`, ... — one function a builtin;
- `State.builtin?`, `State.isSpecial`, `State.builtinNames` — the table.
-/

namespace HostAgent.Shell

open HostAgent.Host

/-- A decimal number, digits only. -/
def decimal? (s : String) : Option Nat :=
  if !s.isEmpty && s.toList.all Char.isDigit then
    some (s.toList.foldl (fun v c => 10 * v + (c.toNat - 48)) 0)
  else none

/-- The white space the C library skips before and after a number. -/
def isCSpace (c : Char) : Bool :=
  c == ' ' || c == '\t' || c == '\n' || c == '\r' || c.toNat == 11 || c.toNat == 12

/-- A signed decimal integer with blanks around it, as `strtoimax` with base 10 and a check
that nothing but blanks follows reads it; `none` when it is not one or leaves the 64-bit
range. -/
def integer? (s : String) : Option Int :=
  let cs := s.toList.dropWhile isCSpace
  let (negative, body) := match cs with
    | '-' :: more => (true, more)
    | '+' :: more => (false, more)
    | _ => (false, cs)
  let ds := body.takeWhile Char.isDigit
  if ds.isEmpty || !(body.drop ds.length).all isCSpace then none
  else
    let n : Nat := ds.foldl (fun v c => 10 * v + (c.toNat - 48)) 0
    if negative then (if n ≤ 9223372036854775808 then some (-(n : Int)) else none)
    else if n ≤ 9223372036854775807 then some (n : Int) else none

/-- A number as the shell's builtins read it: an integer between `0` and `2 ^ 31 - 1`. -/
def shellNumber? (s : String) : Option Nat :=
  match integer? s with
  | some n => if 0 ≤ n && n ≤ 2147483647 then some n.toNat else none
  | none => none

/-- A text in single quotes, as the shell prints it back: a quote inside is written `'"'"'`. -/
def singleQuote (text : String) : String :=
  "'" ++ text.replace "'" "'\"'\"'" ++ "'"

/-- The name the shell gives a trap condition: `EXIT` for `0`, a signal's name otherwise. -/
def conditionName (n : Nat) : String :=
  if n == 0 then "EXIT" else (Signal.name? n).getD (toString n)

/-- The condition a trap operand names: `EXIT`, a signal name (any case, no `SIG`), or a
number below `Signal.count`. -/
def condition? (spec : String) : Option Nat :=
  if Signal.upper spec == "EXIT" then some 0 else Signal.number? spec

namespace State

/-- Finish a command with a status. -/
def finish (status : Nat) : ShellM Flow := do
  setStatus status
  pure .next

/-- Report a builtin's error and finish with a status. -/
def builtinError (builtin message : String) (status : Nat) : ShellM Flow := do
  diagnose (builtin ++ ": " ++ message)
  finish status

/-- Report a special builtin's error: the shell leaves with status 2. -/
def fatal (builtin message : String) : ShellM Flow := do
  diagnose (builtin ++ ": " ++ message)
  setStatus 2
  pure (.exit 2)

/-- Report an `Illegal number` of a special builtin. -/
def illegalNumber (builtin arg : String) : ShellM Flow := fatal builtin ("Illegal number: " ++ arg)

/-- Whether a text is a variable name. -/
def isName (s : String) : Bool :=
  match s.toList with
  | c :: rest => (c.isAlpha || c == '_') && rest.all fun d => d.isAlphanum || d == '_'
  | [] => false

/-! ## `echo`, `printf` -/

/-- `echo`. -/
def echo (args : List String) : ShellM Flow := do
  write 1 (ByteArray.mk (echoBytes args).toArray)
  finish 0

/-- `printf format args...`: the diagnostics come first, since the shell writes them at once and
the output only when the builtin is done. -/
def printf (args : List String) : ShellM Flow := do
  let args := match args with
    | "--" :: rest => rest
    | _ => args
  match args with
  | [] => builtinError "printf" "usage: printf format [arg ...]" 2
  | format :: rest =>
    let p := printfBytes format rest
    for e in p.errors do diagnose ("printf: " ++ e)
    write 1 (ByteArray.mk p.bytes.toArray)
    finish (if p.invalid then 2 else if p.errors.isEmpty then 0 else 1)

/-! ## `test` -/

/-- The unary operators of `test`. -/
def unaryOps : List String :=
  ["-r", "-w", "-x", "-e", "-f", "-d", "-c", "-b", "-p", "-u", "-g", "-k", "-s", "-t", "-z",
    "-n", "-h", "-O", "-G", "-L", "-S"]

/-- The binary operators of `test`. -/
def binaryOps : List String :=
  ["=", "!=", "<", ">", "-eq", "-ne", "-ge", "-gt", "-le", "-lt", "-nt", "-ot", "-ef"]

/-- A file test of `test`. -/
def fileTest (op path : String) : ShellM Bool := do
  let s ← get
  let node := s.stat path
  pure <| match op, node with
    | "-e", .ok _ => true
    | "-f", .ok (.file _ _) => true
    | "-d", .ok (.dir _) => true
    | "-c", .ok (.device _) => true
    | "-s", .ok (.file data _) => data.size > 0
    | "-s", .ok (.dir _) => true
    | "-r", .ok _ => true
    | "-w", .ok _ => true
    | "-x", .ok (.file _ mode) => mode &&& 0o111 != 0
    | "-x", .ok (.dir _) => true
    | "-u", .ok (.file _ mode) => mode &&& 0o4000 != 0
    | "-u", .ok (.dir mode) => mode &&& 0o4000 != 0
    | "-g", .ok (.file _ mode) => mode &&& 0o2000 != 0
    | "-g", .ok (.dir mode) => mode &&& 0o2000 != 0
    | "-k", .ok (.file _ mode) => mode &&& 0o1000 != 0
    | "-k", .ok (.dir mode) => mode &&& 0o1000 != 0
    | "-O", .ok _ => true
    | "-G", .ok _ => true
    | "-L", _ | "-h", _ => match s.lstat path with
      | .ok (.link _) => true
      | _ => false
    | _, _ => false

/-- A unary test. -/
def unary (op arg : String) : ShellM (Except String Bool) :=
  match op with
  | "-n" => pure (.ok !arg.isEmpty)
  | "-z" => pure (.ok arg.isEmpty)
  | "-t" =>
    match integer? arg with
    | some _ => pure (.ok false)
    | none => pure (.error ("Illegal number: " ++ arg))
  | _ => do pure (.ok (← fileTest op arg))

/-- A binary test, or the message of its error. -/
def binary (a op b : String) : ShellM (Except String Bool) := do
  let s ← get
  match op with
  | "=" => pure (.ok (a == b))
  | "!=" => pure (.ok (a != b))
  | "<" => pure (.ok (decide (a < b)))
  | ">" => pure (.ok (decide (b < a)))
  | "-nt" | "-ot" => pure (.ok false)
  | "-ef" =>
    pure <| .ok <| match s.resolve a true, s.resolve b true with
      | .ok x, .ok y => x == y && (s.files.lookup x).isSome
      | _, _ => false
  | _ =>
    match integer? a, integer? b with
    | none, _ => pure (.error ("Illegal number: " ++ a))
    | _, none => pure (.error ("Illegal number: " ++ b))
    | some x, some y =>
      pure <| .ok <| match op with
        | "-eq" => x == y
        | "-ne" => x != y
        | "-gt" => x > y
        | "-ge" => x ≥ y
        | "-lt" => x < y
        | _ => x ≤ y

/-- What a word of a `test` expression is as a token, looked at with the words after it: an
operator (`!`, `-a`, `-o`, `(`, `)`, a unary or binary operator) or an operand. A unary
operator that is the last word, or that is followed by a binary operator and one more word at
least, is an operand; so is a `(` that is the last word. -/
def testToken (ws : List String) : String :=
  match ws with
  | [] => ""
  | w :: rest =>
    let isOp := unaryOps.contains w || binaryOps.contains w ||
      ["!", "-a", "-o", "(", ")"].contains w
    if !isOp then "operand"
    else if unaryOps.contains w then
      match rest with
      | [] => "operand"
      | [_] => w
      | next :: _ :: _ => if binaryOps.contains next then "operand" else w
    else if w == "(" && rest.isEmpty then "operand"
    else w

/-- The `test` grammar on the words left: `oexpr` is `aexpr` joined by `-o`, `aexpr` is `nexpr`
joined by `-a`, `nexpr` is `!` before `nexpr` or a `primary`, and a `primary` is a parenthesised
`oexpr`, a unary test, a binary test or a single word. Each gives its truth and the words after
it, or a message. -/
def testOr (fuel : Nat) (ws : List String) : ShellM (Except String (Bool × List String)) :=
  match fuel with
  | 0 => pure (.error "expression too long")
  | fuel + 1 => do
    match ← testAnd fuel ws with
    | .ok (v, rest) =>
      match rest with
      | w :: more =>
        if testToken rest == "-o" && w == "-o" then
          match ← testOr fuel more with
          | .ok (v2, after) => pure (.ok (v || v2, after))
          | e => pure e
        else pure (.ok (v, rest))
      | [] => pure (.ok (v, rest))
    | e => pure e
where
  testAnd (fuel : Nat) (ws : List String) : ShellM (Except String (Bool × List String)) :=
    match fuel with
    | 0 => pure (.error "expression too long")
    | fuel + 1 => do
      match ← testNot fuel ws with
      | .ok (v, rest) =>
        match rest with
        | w :: more =>
          if testToken rest == "-a" && w == "-a" then
            match ← testAnd fuel more with
            | .ok (v2, after) => pure (.ok (v && v2, after))
            | e => pure e
          else pure (.ok (v, rest))
        | [] => pure (.ok (v, rest))
      | e => pure e
  testNot (fuel : Nat) (ws : List String) : ShellM (Except String (Bool × List String)) :=
    match fuel with
    | 0 => pure (.error "expression too long")
    | fuel + 1 =>
      match ws with
      | "!" :: rest =>
        if testToken ws == "!" then
          match rest with
          | [] => pure (.ok (false, []))
          | _ => do
            match ← testNot fuel rest with
            | .ok (v, after) => pure (.ok (!v, after))
            | e => pure e
        else testPrimary fuel ws
      | _ => testPrimary fuel ws
  testPrimary (fuel : Nat) (ws : List String) : ShellM (Except String (Bool × List String)) :=
    match fuel with
    | 0 => pure (.error "expression too long")
    | fuel + 1 =>
      match ws with
      | [] => pure (.error "argument expected")
      | w :: rest => do
        let tok := testToken ws
        if tok == "(" then
          match ← testOr fuel rest with
          | .ok (v, ")" :: after) => pure (.ok (v, after))
          | .ok _ => pure (.error "closing paren expected")
          | e => pure e
        else if unaryOps.contains tok then
          match rest with
          | arg :: after =>
            match ← unary w arg with
            | .ok v => pure (.ok (v, after))
            | .error e => pure (.error e)
          | [] => pure (.error (w ++ ": argument expected"))
        else
          match rest with
          | op :: more =>
            if binaryOps.contains op then
              match more with
              | b :: after =>
                match ← binary w op b with
                | .ok v => pure (.ok (v, after))
                | .error e => pure (.error e)
              | [] => pure (.error (op ++ ": argument expected"))
            else pure (.ok (!w.isEmpty, rest))
          | [] => pure (.ok (!w.isEmpty, rest))

/-- Evaluate the words of a `test` expression: its truth, or an error message. Three and four
words follow the special rules of POSIX: a binary operator in the middle of three words is
tested directly, and words between `(` and `)`, or after a leading `!`, are taken again. -/
def testArgs (fuel : Nat) (args : List String) : ShellM (Except String Bool) :=
  match fuel with
  | 0 => pure (.error "expression too long")
  | fuel + 1 => do
    let rec prepare : Nat → List String → Bool → List String × Bool × Bool
      | 0, ws, negate => (ws, negate, false)
      | k + 1, ws, negate =>
        match ws with
        | [] => ([], negate, true)
        | [a, op, b] =>
          if binaryOps.contains op then ([a, op, b], negate, false)
          else if a == "(" && b == ")" then ([op], negate, false)
          else if a == "!" then prepare k [op, b] (!negate)
          else (ws, negate, false)
        | [a, x, y, b] =>
          if a == "(" && b == ")" then ([x, y], negate, false)
          else if a == "!" then prepare k [x, y, b] (!negate)
          else (ws, negate, false)
        | _ => (ws, negate, false)
    let (ws, negate, empty) := prepare (args.length + 1) args false
    if empty then return .ok negate
    match ws with
    | [a, op, b] =>
      if binaryOps.contains op then
        match ← binary a op b with
        | .ok v => return .ok (v != negate)
        | .error e => return .error e
    | _ => pure ()
    match ← testOr fuel ws with
    | .ok (v, []) => pure (.ok (v != negate))
    | .ok (_, [_]) => pure (.ok (false != negate))
    | .ok (_, w :: _) => pure (.error (w ++ ": unexpected operator"))
    | .error e => pure (.error e)

/-- `test args...`, or `[ args... ]` when `bracket`. -/
def test (bracket : Bool) (args : List String) : ShellM Flow := do
  let name := if bracket then "[" else "test"
  let args ← if bracket then
      if args.getLast? == some "]" then pure (some args.dropLast) else pure none
    else pure (some args)
  match args with
  | none => builtinError name "missing ]" 2
  | some args =>
    match ← testArgs (4 * args.length + 8) args with
    | .ok true => finish 0
    | .ok false => finish 1
    | .error e => builtinError name e 2

/-! ## Special builtins -/

/-- `shift [n]`. -/
def shift (args : List String) : ShellM Flow := do
  let n := match args with
    | a :: _ => shellNumber? a
    | [] => some 1
  match n with
  | none => illegalNumber "shift" (args.headD "")
  | some n =>
    let s ← get
    if n > s.args.length then fatal "shift" "can't shift that many"
    else
      set { s with args := s.args.drop n }
      finish 0

/-- `exit [n]`: leave with `n`, or with the last status. -/
def exit (args : List String) : ShellM Flow := do
  match args with
  | [] => pure (.exit (← get).status)
  | a :: _ =>
    match shellNumber? a with
    | some n => pure (.exit n)
    | none => illegalNumber "exit" a

/-- `return [n]`: leave the running function (or the script) with `n`, or with the last
status. -/
def returnFrom (args : List String) : ShellM Flow := do
  match args with
  | [] => pure (.returned (← get).status)
  | a :: _ =>
    match shellNumber? a with
    | some n => pure (.returned n)
    | none => illegalNumber "return" a

/-- `break [n]` and `continue [n]`: leave `n` enclosing loops (as many as there are); outside a
loop nothing happens. -/
def loopControl (isBreak : Bool) (args : List String) : ShellM Flow := do
  let name := if isBreak then "break" else "continue"
  let n := match args with
    | a :: _ => shellNumber? a
    | [] => some 1
  match n with
  | none | some 0 => illegalNumber name (args.headD "")
  | some n =>
    let s ← get
    let n := min n s.loops
    setStatus 0
    if n == 0 then pure .next
    else pure (if isBreak then .breakLoop n else .continueLoop n)

/-- The option names in the order `set -o` lists them. -/
def optionNames : List String :=
  ["errexit", "noglob", "ignoreeof", "interactive", "monitor", "noexec", "stdin", "xtrace",
    "verbose", "vi", "emacs", "noclobber", "allexport", "notify", "nounset", "nolog", "debug"]

/-- Whether an option of `optionNames` is on. -/
def optionOn (o : Options) (n : String) : Bool :=
  match Options.table.find? (·.2.1 == n) with
  | some (_, _, get, _) => get o
  | none => false

/-- The variables as `set` lists them: `name='value'`, sorted by name. -/
def showVariables (prefixText : String) (keep : Variable → Bool) : ShellM Unit := do
  let s ← get
  let vs := (s.vars.filter fun (_, v) => keep v).mergeSort fun a b => decide (a.1 ≤ b.1)
  for (n, v) in vs do
    match v.value with
    | some value => print 1 (prefixText ++ n ++ "=" ++ singleQuote value ++ "\n")
    | none => print 1 (prefixText ++ n ++ "\n")

/-- `set`: options `-x`/`+x` (several letters at once), `-o name`/`+o name`, then the positional
parameters after the options or after `--`; without operands the variables are listed. -/
def setOptions (args : List String) : ShellM Flow := do
  if args.isEmpty then
    showVariables "" fun v => v.value.isSome
    return (← finish 0)
  let rec go : Nat → List String → ShellM (Except String (Option (List String)))
    | 0, _ => pure (.ok none)
    | _, [] => pure (.ok none)
    | fuel + 1, a :: rest =>
      if a == "--" then pure (.ok (some rest))
      else if a == "-" then do
        modify fun s => { s with options := { s.options with xtrace := false, verbose := false } }
        pure (.ok (if rest.isEmpty then none else some rest))
      else if a.startsWith "-" || a.startsWith "+" then do
        let on := a.startsWith "-"
        let letters := a.toList.drop 1
        let mut rest := rest
        for c in letters do
          if c == 'o' then
            match rest with
            | name :: more =>
              rest := more
              match (← get).options.setName name on with
              | some o => modify fun s => { s with options := o }
              | none => return .error ("Illegal option -o " ++ name)
            | [] => do
              let o := (← get).options
              if on then
                print 1 "Current option settings\n"
                for n in optionNames do
                  let pad := String.ofList (List.replicate (16 - n.length) ' ')
                  print 1 (n ++ pad ++ (if optionOn o n then "on" else "off") ++ "\n")
              else
                for n in optionNames do
                  print 1 ("set " ++ (if optionOn o n then "-o " else "+o ") ++ n ++ "\n")
          else
            match (← get).options.setLetter c on with
            | some o => modify fun s => { s with options := o }
            | none => return .error ("Illegal option " ++ (if on then "-" else "+") ++ String.singleton c)
        go fuel rest
      else pure (.ok (some (a :: rest)))
  match ← go (args.length + 1) args with
  | .error e => fatal "set" e
  | .ok params =>
    if let some ps := params then modify fun s => { s with args := ps }
    finish 0

/-- `export` and `readonly`: `name=value` sets and marks the variable, a bare name marks it;
without operands (or with `-p`) the marked variables are listed. -/
def markVars (readonly : Bool) (args : List String) : ShellM Flow := do
  let name := if readonly then "readonly" else "export"
  let args := match args with
    | "--" :: rest => rest
    | _ => args
  if args.isEmpty || args == ["-p"] then
    showVariables (name ++ " ") fun v => if readonly then v.readonly else v.exported
    return (← finish 0)
  for a in args do
    let n := String.ofList (a.toList.takeWhile (· != '='))
    let value := if a.toList.contains '=' then some (String.ofList (a.toList.drop (n.length + 1))) else none
    if !isName n then return (← fatal name (n ++ ": bad variable name"))
    match value with
    | some v =>
      match ← setVar n v with
      | some e => return (← fatal name e)
      | none => markVar n none (!readonly) readonly
    | none => markVar n none (!readonly) readonly
  finish 0

/-- `unset [-f | -v] names...`: variables, or functions with `-f`. A read-only variable cannot
be unset: that is an error of a special builtin, which ends the shell. -/
def unset (args : List String) : ShellM Flow := do
  let (functions, names) := match args with
    | "-f" :: rest => (true, rest)
    | "-v" :: rest => (false, rest)
    | _ => (false, args)
  for n in names do
    if functions then
      modify fun s => { s with functions := s.functions.filter (·.1 != n) }
    else
      match ← unsetVar n with
      | some e => return (← fatal "unset" e)
      | none => pure ()
  finish 0

/-- `local names...`: the variables become the running function's own; their values come back
when it returns. `name=value` also sets the variable. -/
def makeLocal (args : List String) : ShellM Flow := do
  if (← get).frames.isEmpty then return (← fatal "local" "not in a function")
  for a in args do
    let (n, v) := match a.splitOn "=" with
      | n :: v :: more => (n, some ("=".intercalate (v :: more)))
      | _ => (a, none)
    modify fun s => match s.frames with
      | frame :: outer =>
        if frame.any (·.1 == n) then s
        else { s with frames := ((n, s.varEntry? n) :: frame) :: outer }
      | [] => s
    match v with
    | some v => if let some e ← setVar n v then return (← fatal "local" e)
    | none => pure ()
  finish 0

/-- `trap [action conditions...]`: keep an action for conditions (`EXIT` or `0`, or signals);
`-` restores the default, the empty action ignores the signal. A first operand that is a
number is a condition, the action being `-`. Without operands the kept actions are printed.
An unknown condition stops the command with status 1. -/
def trap (args : List String) : ShellM Flow := do
  let args := match args with
    | "--" :: rest => rest
    | _ => args
  match args with
  | [] => do
    let s ← get
    let kept := s.traps.mergeSort fun a b => decide (a.1 ≤ b.1)
    for (n, action) in kept do
      print 1 ("trap -- " ++ singleQuote action ++ " " ++ conditionName n ++ "\n")
    finish 0
  | first :: more =>
    let (action, conditions) :=
      if more.isEmpty || (decimal? first).any (· < Signal.count) then (none, args)
      else (if first == "-" then none else some first, more)
    for c in conditions do
      match condition? c with
      | none =>
        print 2 ("trap: " ++ c ++ ": bad trap\n")
        return (← finish 1)
      | some n =>
        modify fun s =>
          let others := s.traps.filter (·.1 != n)
          { s with traps := match action with
            | some a => (n, a) :: others
            | none => others }
    finish 0

/-! ## Regular builtins -/

/-- Normalise an absolute path by its text: `.` components go, `..` removes the one before. -/
def normalizePath (p : String) : String :=
  let parts := (p.splitOn "/").filter (fun c => !c.isEmpty && c != ".")
  let kept := parts.foldl (fun acc c => if c == ".." then acc.dropLast else acc ++ [c]) []
  "/" ++ "/".intercalate kept

/-- `cd [-L | -P] [dir]`: the logical path (`PWD` with the operand, `.` and `..` taken by
text) is where the shell goes, unless `-P` asks for the physical one; `-` goes back to
`OLDPWD` and prints it. -/
def cd (args : List String) : ShellM Flow := do
  let (physical, operands) :=
    let opts := args.takeWhile fun a => a == "-L" || a == "-P"
    (opts.getLast? == some "-P", args.drop opts.length)
  let s ← get
  let (dest, printIt) := match operands with
    | [] => ((s.lookupVar "HOME").getD "", false)
    | "-" :: _ => ((s.lookupVar "OLDPWD").getD "", true)
    | d :: _ => (d, false)
  let dest := if dest.isEmpty then "." else dest
  let logical := normalizePath (if dest.startsWith "/" then dest else s.pwd ++ "/" ++ dest)
  let target := if physical then dest else logical
  match s.resolve target true with
  | .ok loc =>
    match s.files.lookup loc with
    | some (.dir _) =>
      let newPwd := if physical then locationText loc else logical
      set { s with cwd := loc, pwd := newPwd }
      discard (setVar "OLDPWD" s.pwd)
      discard (setVar "PWD" newPwd)
      if printIt then print 1 (newPwd ++ "\n")
      finish 0
    | none => if loc.isEmpty then finish 0 else builtinError "cd" ("can't cd to " ++ dest) 2
    | _ => builtinError "cd" ("can't cd to " ++ dest) 2
  | .error _ => builtinError "cd" ("can't cd to " ++ dest) 2

/-- `pwd [-L | -P]`: the logical working directory, or the physical one with `-P`. -/
def printPwd (args : List String) : ShellM Flow := do
  let s ← get
  if args.getLast? == some "-P" then print 1 (locationText s.cwd ++ "\n")
  else print 1 (s.pwd ++ "\n")
  finish 0

/-- The bytes `read` takes for one line: up to a newline, a backslash keeping the byte after it
(and a backslash before a newline joining the lines) unless `raw`; NUL bytes are dropped. The
characters, each marked when a backslash kept it, and whether a newline ended the line. -/
def readLineBytes (raw : Bool) : Nat → List UInt8 → List (Char × Bool) → Bool →
    List (Char × Bool) × Nat × Bool
  | 0, _, acc, _ => (acc.reverse, 0, false)
  | _, [], acc, _ => (acc.reverse, 0, false)
  | fuel + 1, b :: rest, acc, escaped =>
    let (line, used, ended) :=
      if b == 0 then readLineBytes raw fuel rest acc escaped
      else if escaped then
        if b == 10 then readLineBytes raw fuel rest acc false
        else readLineBytes raw fuel rest ((Octets.ofByte b, true) :: acc) false
      else if !raw && b == 92 then readLineBytes raw fuel rest acc true
      else if b == 10 then (acc.reverse, 0, true)
      else readLineBytes raw fuel rest ((Octets.ofByte b, false) :: acc) false
    (line, used + 1, ended)

/-- `read [-r] [-p prompt] names...`: one line cut at the characters of `IFS` into the names,
the last taking the rest; status 1 at the end of the input. -/
def read (args : List String) : ShellM Flow := do
  let rec opts : Nat → List String → Bool → Except String (Bool × List String)
    | 0, rest, raw => .ok (raw, rest)
    | _, [], raw => .ok (raw, [])
    | fuel + 1, a :: rest, raw =>
      if a == "--" then .ok (raw, rest)
      else if a == "-r" then opts fuel rest true
      else if a == "-p" then opts fuel (rest.drop 1) raw
      else if a.startsWith "-" && a.length > 1 then
        .error ("Illegal option " ++ String.ofList (a.toList.take 2))
      else .ok (raw, a :: rest)
  match opts (args.length + 1) args false with
  | .error e => builtinError "read" e 2
  | .ok (raw, names) =>
    if names.isEmpty then return (← builtinError "read" "arg count" 2)
    let s ← get
    match s.inputBytes with
    | none => builtinError "read" "read error: Bad file descriptor" 2
    | some input =>
      let (line, used, ended) := readLineBytes raw (input.length + 1) input [] false
      consume used
      let fields := readFields (← get).ifs names.length line
      for (n, v) in names.zip fields do
        if let some e ← setVar n v then return (← builtinError "read" e 2)
      finish (if ended then 0 else 1)

/-- Send a signal to a process. Only the shell (`$$`, or `0` for its process group) can be
reached. From a subshell the signal waits for the shell to take it; in the shell itself a
trapped signal waits for its action, an ignored one is dropped, and one without either ends the
shell at once or (a signal that stops or is ignored by default) changes nothing. Other numbers
name no process: the result is `Flow.next` then. -/
def sendSignal (sig : Nat) (pid : Nat) : ShellM (Option Flow) := do
  let s ← get
  if pid == s.pid || pid == 0 then
    let queue : ShellM (Option Flow) := do
      if sig != 0 && !s.signals.contains sig then modify fun s => { s with signals := s.signals ++ [sig] }
      pure none
    if s.self != s.pid then queue
    else match s.traps.find? (·.1 == sig) with
    | some (_, action) => if action.isEmpty || sig == 0 then pure none else queue
    | none =>
      if sig == 0 then pure none
      else match Signal.defaultAction sig with
        | .terminate => pure (some (.killed sig))
        | _ => pure none
  else pure (some .next)

/-- `kill [-s name | -name | -number] pid...` and `kill -l [status]`. -/
def kill (args : List String) : ShellM Flow := do
  let usage := "Usage: kill [-s sigspec | -signum | -sigspec] [pid | job]... or\nkill -l [exitstatus]"
  let named (spec : String) : Option Nat :=
    match decimal? spec with
    | some n => if n < Signal.count then some n else none
    | none => (Signal.table.find? (·.2 == Signal.upper spec)).map (·.1)
  -- the signal, whether `-l` was given, the operands, or an error
  let parsed : Except String (Option Nat × Bool × List String) :=
    match args with
    | a :: rest =>
      if a.startsWith "-" && a.length > 1 then
        match named (String.ofList (a.toList.drop 1)) with
        | some n => .ok (some n, false, rest)
        | none =>
          match a.toList.drop 1 with
          | ['l'] => .ok (none, true, rest)
          | ['s'] =>
            match rest with
            | spec :: more =>
              match named spec with
              | some n => .ok (some n, false, more)
              | none => .error ("invalid signal number or name: " ++ spec)
            | [] => .error "No arg for -s option"
          | 's' :: spec =>
            match named (String.ofList spec) with
            | some n => .ok (some n, false, rest)
            | none => .error ("invalid signal number or name: " ++ String.ofList spec)
          | c :: _ => .error ("Illegal option -" ++ String.singleton c)
          | [] => .ok (none, false, args)
      else .ok (none, false, args)
    | [] => .ok (none, false, [])
  match parsed with
  | .error e => builtinError "kill" e 2
  | .ok (_, true, operands) =>
    match operands with
    | [] =>
      print 1 "0\n"
      for (_, n) in Signal.table do print 1 (n ++ "\n")
      finish 0
    | a :: _ =>
      let n := (decimal? a).map fun v => if v > 128 then v - 128 else v
      match n.bind Signal.name? with
      | some name =>
        print 1 (name ++ "\n")
        finish 0
      | none => builtinError "kill" ("invalid signal number or exit status: " ++ a) 2
  | .ok (sig, false, pids) =>
    if pids.isEmpty then return (← builtinError "kill" usage 2)
    let sig := sig.getD 15
    let mut status := 0
    for p in pids do
      match decimal? p with
      | none => return (← builtinError "kill" ("Illegal number: " ++ p) 2)
      | some pid =>
        match ← sendSignal sig pid with
        | some .next =>
          print 2 ((← get).name ++ ": " ++ toString (← get).line ++ ": kill: No such process\n\n")
          status := 1
        | some flow => return flow
        | none => pure ()
    finish status

/-- The text of a file creation mask: four octal digits. -/
def maskText (m : Nat) : String :=
  let ds := Nat.toDigits 8 m
  String.ofList (List.replicate (4 - ds.length) '0' ++ ds)

/-- The symbolic text of a file creation mask, as `umask -S` prints it. -/
def maskSymbolic (m : Nat) : String :=
  let allowed := 0o777 - (m &&& 0o777)
  let part (who : String) (shift : Nat) : String :=
    let bits := allowed / Nat.pow 8 shift % 8
    who ++ "=" ++ (if bits &&& 4 != 0 then "r" else "") ++ (if bits &&& 2 != 0 then "w" else "") ++
      (if bits &&& 1 != 0 then "x" else "")
  part "u" 2 ++ "," ++ part "g" 1 ++ "," ++ part "o" 0

/-- `umask [-S] [mask]`: print the file creation mask, or set it from octal digits. -/
def setUmask (args : List String) : ShellM Flow := do
  let (symbolic, operands) := match args with
    | "-S" :: rest => (true, rest)
    | _ => (false, args)
  match operands with
  | [] =>
    let m := (← get).umask
    print 1 ((if symbolic then maskSymbolic m else maskText m) ++ "\n")
    finish 0
  | spec :: _ =>
    if !spec.isEmpty && spec.toList.all (fun c => '0' ≤ c && c ≤ '7') then
      let m := spec.toList.foldl (fun v c => 8 * v + (c.toNat - 48)) 0
      modify fun s => { s with umask := m &&& 0o777 }
      finish 0
    else if !spec.isEmpty && spec.toList.all Char.isDigit then
      builtinError "umask" ("Illegal number: " ++ spec) 2
    else builtinError "umask" ("Illegal mode: " ++ spec) 2

/-- `wait [pid...]`: background commands have already finished; without operands the status is
`0`, with them the status of the last one named (`127` for a number that names none). -/
def wait (jobs : List (Nat × Nat)) (args : List String) : ShellM Flow := do
  let mut status := 0
  for a in args do
    match decimal? a with
    | some pid => status := ((jobs.find? (·.1 == pid)).map (·.2)).getD 127
    | none => return (← builtinError "wait" ("Illegal number: " ++ a) 2)
  finish status

/-- `getopts optstring name [args...]`: the next option of the arguments (or of the positional
parameters), through `OPTIND` and `OPTARG`; status 1 when the options are over. -/
def getopts (args : List String) : ShellM Flow := do
  match args with
  | optstring :: name :: given =>
    let s ← get
    let params := if given.isEmpty then s.args else given
    let index := ((s.lookupVar "OPTIND").bind decimal?).getD 1
    let index := if index == 0 then 1 else index
    let silent := optstring.startsWith ":"
    let spec := if silent then optstring.toList.drop 1 else optstring.toList
    let setVars (n : String) (optarg : Option String) (next : Nat) : ShellM Unit := do
      discard (setVar name n)
      match optarg with
      | some a => discard (setVar "OPTARG" a)
      | none => discard (unsetVar "OPTARG")
      discard (setVar "OPTIND" (toString next))
    match params.drop (index - 1) with
    | arg :: rest =>
      if arg == "--" then
        discard (setVar "OPTIND" (toString (index + 1)))
        discard (setVar name "?")
        finish 1
      else if arg.length < 2 || !arg.startsWith "-" then
        discard (setVar name "?")
        finish 1
      else
        let c := (arg.toList.drop 1).headD ' '
        let tail := String.ofList (arg.toList.drop 2)
        let takesArg := ((spec.dropWhile (· != c)).drop 1).head? == some ':'
        if !spec.contains c || c == ':' then
          if silent then setVars "?" (some (String.singleton c)) (index + 1)
          else
            diagnose ("Illegal option -" ++ String.singleton c)
            setVars "?" none (index + 1)
          finish 0
        else if takesArg then
          if !tail.isEmpty then
            setVars (String.singleton c) (some tail) (index + 1)
            finish 0
          else match rest with
            | value :: _ =>
              setVars (String.singleton c) (some value) (index + 2)
              finish 0
            | [] =>
              if silent then setVars ":" (some (String.singleton c)) (index + 1)
              else
                diagnose ("No arg for -" ++ String.singleton c ++ " option")
                setVars "?" none (index + 1)
              finish 0
        else
          setVars (String.singleton c) none (index + 1)
          finish 0
    | [] =>
      discard (setVar name "?")
      finish 1
  | _ => builtinError "getopts" "usage: getopts optstring var [arg]" 2

/-! ## The table -/

/-- The special builtins: their errors end the shell, and assignments before them stay. -/
def specialNames : List String :=
  [":", ".", "break", "continue", "eval", "exec", "exit", "export", "readonly", "return", "set",
    "shift", "times", "trap", "unset", "local"]

/-- Every builtin. -/
def builtinNames : List String :=
  specialNames ++ ["true", "false", "echo", "printf", "test", "[", "cd", "pwd", "read", "kill",
    "umask", "wait", "hash", "type", "command", "getopts", "ulimit", "jobs", "alias", "unalias"]

/-- Whether a builtin is a special one. -/
def isSpecial (name : String) : Bool := specialNames.contains name

/-- Run a builtin that needs nothing but the shell's state, by name; `none` for the builtins the
evaluator runs itself (`eval`, `.`, `exec`, `command`, `type`, `wait`) and for other names. -/
def builtin? (name : String) (args : List String) : Option (ShellM Flow) :=
  match name with
  | ":" | "true" => some (finish 0)
  | "false" => some (finish 1)
  | "echo" => some (echo args)
  | "printf" => some (printf args)
  | "test" => some (test false args)
  | "[" => some (test true args)
  | "shift" => some (shift args)
  | "exit" => some (exit args)
  | "set" => some (setOptions args)
  | "export" => some (markVars false args)
  | "readonly" => some (markVars true args)
  | "unset" => some (unset args)
  | "cd" => some (cd args)
  | "pwd" => some (printPwd args)
  | "read" => some (read args)
  | "kill" => some (kill args)
  | "return" => some (returnFrom args)
  | "local" => some (makeLocal args)
  | "trap" => some (trap args)
  | "umask" => some (setUmask args)
  | "getopts" => some (getopts args)
  | "break" => some (loopControl true args)
  | "continue" => some (loopControl false args)
  | "hash" | "jobs" | "alias" | "unalias" => some (finish 0)
  | "times" => some (do print 1 "0m0.000000s 0m0.000000s\n0m0.000000s 0m0.000000s\n"; finish 0)
  | "ulimit" => some (do print 1 "unlimited\n"; finish 0)
  | _ => none

end State

end HostAgent.Shell
