import HostAgent.Shell.Builtins
import HostAgent.Shell.Process
import HostAgent.Shell.Utility.Table
import HostAgent.Shell.Utility.Awk
import HostAgent.Shell.Utility.Xargs
import HostAgent.Shell.Utility.Launch
import HostAgent.Shell.Parse
import HostAgent.Shell.Pattern
import HostAgent.Shell.Arith
import HostAgent.Shell.Glob

/-!
# `HostAgent.Shell.Eval` — running a script

The evaluator walks the syntax of `HostAgent.Shell.Syntax` over a running shell (`State`):

* words expand piece by piece (`expandPieces`): a leading `~` to the home directory, parameters,
  command substitutions (a subshell whose output loses its trailing newlines) and arithmetic;
  the results of unquoted expansions are cut at the characters of `IFS`
  (`HostAgent.Shell.Fields`), and a field with an unquoted `*`, `?` or `[` then expands to the
  paths it matches (`HostAgent.Shell.Glob`) unless `set -f`;
* a simple command expands its words, opens its redirections, expands its assignments, is
  traced under `set -x`, and runs: a special builtin, a function, a regular builtin, or a
  program found through `PATH`; assignments stay for special builtins and for a command without
  a name, last only while a function or regular builtin runs, and go to the environment of a
  program;
* a program is a process of its own (`execProgram`): a file starting with `#!` runs its
  interpreter, a program of the host runs as what its file is (the shell, `env`, or a utility of
  `HostAgent.Shell.Utility.Table`), and any other file runs as a shell script;
* a pipeline runs its stages one after the other in subshells, each reading what the one before
  wrote; a command ending in `&` runs in a subshell at once, with its input from the null device;
* `&&`, `||`, `!`, `if`, `while`, `until`, `for` and `case` follow the exit statuses, `break`
  and `continue` leave loops, and with `set -e` a failing command that is not tested ends the
  shell;
* signals sent to the shell wait until the command that sent them is over; then a trap's action
  runs (the status kept), or the shell ends when the signal's default is to end it.

Two measures keep every run finite: a fuel that bounds the nesting of the evaluator's own calls,
and a budget of steps in the state that every command and loop turn spends. A script that runs
out of either is treated as killed (`Flow.killed 9`), the way a run that never ends is stopped
from outside.
-/

namespace HostAgent.Shell

open HostAgent.Host

/-- The first bytes of a program file of the host. -/
def binaryMagic : List UInt8 := [0x7F, 0x45, 0x4C, 0x46]

/-- Whether a mode lets someone execute. -/
def executable (mode : Nat) : Bool := mode &&& 0o111 != 0

/-- The reserved words of the shell. -/
def keywords : List String :=
  ["!", "\x7b", "\x7d", "case", "do", "done", "elif", "else", "esac", "fi", "for", "if", "in", "then",
    "until", "while"]

namespace State

/-- The value of a parameter: special parameters, positional ones, variables; `LINENO`, unless
set, is the line of the command running. `none` when it is unset. -/
def param? (s : State) (name : String) : Option String :=
  match name with
  | "#" => some (toString s.args.length)
  | "?" => some (toString s.status)
  | "$" => some (toString s.pid)
  | "!" => s.lastAsync.map toString
  | "-" => some s.options.letters
  | "@" | "*" => if s.args.isEmpty then none else some (" ".intercalate s.args)
  | _ =>
    match decimal? name with
    | some 0 => some s.name
    | some n => s.args[n - 1]?
    | none =>
      match s.lookupVar name with
      | some v => some v
      | none => if name == "LINENO" then some (toString s.line) else none

/-- The positional parameters joined for `"$*"`: the first character of `IFS` between them (a
blank when `IFS` is unset, nothing when it is empty). -/
def joinedArgs (s : State) : String :=
  let sep := match s.lookupVar "IFS" with
    | some v => (v.toList.head?.map String.singleton).getD ""
    | none => " "
  sep.intercalate s.args

/-- What ends the command being run after its expansions: a signal that killed the shell during
them, or a failed expansion (which is then taken care of). -/
def stopped : ShellM (Option Flow) := do
  let s ← get
  match s.pendingKill, s.pendingExit with
  | some sig, _ => pure (some (.killed sig))
  | none, some n => do
    set { s with pendingExit := none }
    setStatus n
    pure (some (.exit n))
  | none, none => pure none

/-- Report a failed expansion: the shell leaves with status 2 once the expansion is over. -/
def expansionFailed (message : String) : ShellM Unit := do
  diagnose message
  modify fun s => { s with pendingExit := some 2 }

/-- Whether the budget is spent: a run stopped from outside, which every level gives up on. -/
def exhausted : ShellM Bool := do pure ((← get).budget == 0)

/-- The reason a file cannot be created, as the shell words it. -/
def createReason (e : IoError) : String :=
  match e with
  | .notFound | .notADirectory => "Directory nonexistent"
  | e => e.description

/-- The reason a file cannot be opened, as the shell words it. -/
def openReason (e : IoError) : String :=
  match e with
  | .notFound | .notADirectory => "No such file"
  | e => e.description

/-- Where a command name leads through `PATH`: the first executable file of that name in its
directories (an empty entry is the working directory); `permissionDenied` when only files that
cannot be executed were found. -/
def locate (s : State) (name : String) : Except IoError String :=
  let dirs := ((s.lookupVar "PATH").getD "").splitOn ":"
  let rec go : List String → Bool → Except IoError String
    | [], denied => .error (if denied then .permissionDenied else .notFound)
    | d :: more, denied =>
      let candidate := if d.isEmpty then name else if d.endsWith "/" then d ++ name else d ++ "/" ++ name
      match s.stat candidate with
      | .ok (.file _ mode) => if executable mode then .ok candidate else go more true
      | _ => go more denied
  go dirs false

/-- Where a file to read as a script (`.`) is found: through `PATH` for a name without a slash. -/
def locateReadable (s : State) (name : String) : Option String :=
  if name.toList.contains '/' then some name
  else
    let dirs := ((s.lookupVar "PATH").getD "").splitOn ":"
    dirs.findSome? fun d =>
      let candidate := if d.isEmpty then name else if d.endsWith "/" then d ++ name else d ++ "/" ++ name
      match s.stat candidate with
      | .ok (.file _ _) => some candidate
      | _ => none

/-- The environment of a program started with assignments in front: the exported variables,
the assignments replacing or joining them. -/
def envWith (s : State) (values : List (String × String)) : List (String × String) :=
  let base := s.exportedEnv.filter fun (n, _) => !values.any (·.1 == n)
  base ++ values

/-- Write the trace of a simple command: `PS4`, the assignments and the words. -/
def trace (values : List (String × String)) (fields : List String) : ShellM Unit := do
  let s ← get
  let ps4 := (s.lookupVar "PS4").getD "+ "
  let words := values.map (fun (n, v) => n ++ "=" ++ v) ++ fields
  print 2 (ps4 ++ " ".intercalate words ++ "\n")

/-- Put back the descriptors some redirections changed. -/
def restoreFds (before : List (Nat × Desc)) (touched : List Nat) : ShellM Unit :=
  modify fun s =>
    let kept := s.fds.filter fun (fd, _) => !touched.contains fd
    let back := before.filter fun (fd, _) => touched.contains fd
    { s with fds := back ++ kept }

/-- The descriptors some redirections change. -/
def redirectFds (redirects : List Redirect) : List Nat :=
  redirects.map fun r => match r with
    | .mk fd _ _ => fd

/-- Set variables for the time a command runs; their entries before, for `restoreVars`, or the
message when one of them is read-only. -/
def setTemporary (values : List (String × String)) (exported : Bool) :
    ShellM (Except String (List (String × Option Variable))) := do
  let mut saved : List (String × Option Variable) := []
  for (n, v) in values do
    let s ← get
    let old := s.varEntry? n
    if old.any (·.readonly) then return .error (n ++ ": is read only")
    saved := (n, old) :: saved
    putVariable n { value := some v, exported := exported || (old.any (·.exported)) ||
      s.options.allexport }
  pure (.ok saved)

/-- Give variables back their entries from before. -/
def restoreVars (saved : List (String × Option Variable)) : ShellM Unit := do
  for (n, old) in saved do
    match old with
    | some v => putVariable n v
    | none => modify fun s => { s with vars := s.vars.filter (·.1 != n) }

/-- After a process the shell waited for: its status, the description of the signal that killed
it (unless an interrupt or a broken pipe), and a `CHLD` for the shell's trap. -/
def waited (flow : Flow) : ShellM Flow := do
  if flow == .killed 9 && (← exhausted) then return .killed 9
  let s ← get
  setStatus (statusOf flow s)
  if let .killed sig := flow then
    if sig != 2 && sig != 13 then print 2 (Signal.description sig ++ "\n")
  let s ← get
  if s.self == s.pid && (s.traps.any fun (n, a) => n == Signal.child && !a.isEmpty) &&
      !s.signals.contains Signal.child then
    set { s with signals := s.signals ++ [Signal.child] }
  pure .next

/-- Run in a subshell; the state goes back to the shell's afterwards, with what the subshell
changed outside itself. -/
def inSubshell (act : ShellM Flow) : ShellM Flow := do
  let before ← get
  set before.forSubshell
  let flow ← act
  let after ← get
  set (rejoin true before after)
  pure flow

/-- Run a utility as a process of its own. -/
def runUtility (act : ShellM Nat) : ShellM Flow := do
  let before ← get
  set { before with writeFailed := false, self := before.nextPid, nextPid := before.nextPid + 1 }
  let status ← act
  let after ← get
  set (rejoin false before after)
  if after.budget == 0 then pure (.killed 9) else pure (.exit status)

/-- The interpreter line of a script, `#!interpreter [argument]`: the interpreter and its
argument, if any. -/
def interpreterLine (bytes : List UInt8) : Option (String × Option String) :=
  let blank (b : UInt8) : Bool := b == 32 || b == 9
  let line := ((bytes.drop 2).takeWhile (· != 10)).take 254
  let afterBlank := line.dropWhile blank
  let interp := afterBlank.takeWhile (fun b => !blank b)
  let rest := (afterBlank.drop interp.length).dropWhile blank
  let arg := (rest.reverse.dropWhile blank).reverse
  if interp.isEmpty then none
  else some (Octets.ofBytes interp, if arg.isEmpty then none else some (Octets.ofBytes arg))

/-- The search path `env` uses to start a program: `PATH` of the new environment, or the C
library's default. -/
def envSearch (s : State) (env : List (String × String)) (name : String) : Except IoError String :=
  let path := ((env.reverse.find? (·.1 == "PATH")).map (·.2)).getD "/bin:/usr/bin"
  locate { s with vars := [("PATH", { value := some path })] } name

/-- The shell's own options, read from its arguments like `set` reads them, up to the first
operand: the options, whether `-c` was given, the operands; or the message. -/
def shellOptions (args : List String) : Except String (Options × Bool × List String) :=
  let rec go : Nat → List String → Options → Bool → Except String (Options × Bool × List String)
    | 0, rest, o, c => .ok (o, c, rest)
    | _, [], o, c => .ok (o, c, [])
    | fuel + 1, a :: rest, o, c =>
      if a == "-" || a == "--" then .ok (o, c, rest)
      else if (a.startsWith "-" || a.startsWith "+") && a.length > 1 then
        let on := a.startsWith "-"
        let letters := a.toList.drop 1
        let step (acc : Except String (Options × Bool × List String)) (ch : Char) :
            Except String (Options × Bool × List String) := do
          let (o, c, pending) ← acc
          if ch == 'c' then pure (o, true, pending)
          else if ch == 'o' then pure (o, c, pending ++ ["o"])
          else if ch == 'l' then pure (o, c, pending)
          else match o.setLetter ch on with
            | some o => pure (o, c, pending)
            | none => throw ("Illegal option " ++ (if on then "-" else "+") ++ String.singleton ch)
        match letters.foldl step (.ok (o, c, [])) with
        | .error e => .error e
        | .ok (o, c, pending) =>
          -- each `o` takes the next word as an option name
          let named := pending.length
          let names := rest.take named
          let rest := rest.drop named
          let setOne (acc : Except String Options) (n : String) : Except String Options :=
            acc.bind fun o => match o.setName n on with
              | some o => .ok o
              | none => .error ("Illegal option -o " ++ n)
          match names.foldl setOne (.ok o) with
          | .ok o => go fuel rest o c
          | .error e => .error e
      else .ok (o, c, a :: rest)
  go (args.length + 1) args {} false

end State

open State

mutual
/-- Run a script. `tested` marks a script whose status is tested, so `set -e` leaves it be. -/
def runScript (fuel : Nat) (tested : Bool) (script : Script) : ShellM Flow :=
  match fuel, script with
  | 0, _ => pure (.killed 9)
  | fuel + 1, .mk chains => runChains fuel tested chains

/-- Run chains one after the other. -/
def runChains (fuel : Nat) (tested : Bool) (chains : List Chain) : ShellM Flow :=
  match fuel, chains with
  | 0, _ => pure (.killed 9)
  | _, [] => pure .next
  | fuel + 1, c :: rest => do
    match ← runChain fuel tested c with
    | .next => runChains fuel tested rest
    | other => pure other

/-- Run a chain, at once in a subshell when it ends in `&`. -/
def runChain (fuel : Nat) (tested : Bool) (chain : Chain) : ShellM Flow :=
  match fuel, chain with
  | 0, _ => pure (.killed 9)
  | fuel + 1, .mk first rest false => runAndOr fuel tested first rest
  | fuel + 1, .mk first rest true => do
    let pid := (← get).nextPid
    -- the job's time passes beside the shell's
    let clock := (← get).elapsed
    let flow ← inSubshell (do
      setFd 0 (some .null)
      let f ← runAndOr fuel false first rest
      finishShell fuel f)
    if flow == .killed 9 && (← exhausted) then return .killed 9
    let s ← get
    let status := statusOf flow s
    set { s with jobs := (pid, status) :: s.jobs, lastAsync := some pid, elapsed := clock }
    discard (waited (.exit 0))
    setStatus 0
    pure .next

/-- A chain's pipelines: each link runs when the status so far asks for it. -/
def runAndOr (fuel : Nat) (tested : Bool) (first : Pipeline) (rest : List (Bool × Pipeline)) :
    ShellM Flow :=
  match fuel with
  | 0 => pure (.killed 9)
  | fuel + 1 => do
    match ← runPipeline fuel (tested || !rest.isEmpty) first with
    | .next => runLinks fuel tested rest
    | other => pure other

/-- The `&&` and `||` links of a chain. -/
def runLinks (fuel : Nat) (tested : Bool) (links : List (Bool × Pipeline)) : ShellM Flow :=
  match fuel, links with
  | 0, _ => pure (.killed 9)
  | _, [] => pure .next
  | fuel + 1, (isAnd, p) :: more => do
    let ok := (← get).status == 0
    if isAnd == ok then
      match ← runPipeline fuel (tested || !more.isEmpty) p with
      | .next => runLinks fuel tested more
      | other => pure other
    else runLinks fuel tested more

/-- Run a pipeline. -/
def runPipeline (fuel : Nat) (tested : Bool) (p : Pipeline) : ShellM Flow :=
  match fuel, p with
  | 0, _ => pure (.killed 9)
  | fuel + 1, .mk negated stages => do
    let flow ← match stages with
      | [c] => runCommand fuel (tested || negated) c
      | _ => runStages fuel none stages
    match flow with
    | .next =>
      if negated then
        setStatus (if (← get).status == 0 then 1 else 0)
        pure .next
      else
        let s ← get
        if s.options.errexit && !tested && s.status != 0 then pure (.exit s.status) else pure .next
    | other => pure other

/-- The stages of a pipeline, each in a subshell reading what the one before wrote. -/
def runStages (fuel : Nat) (input : Option (List UInt8)) (stages : List Command) : ShellM Flow :=
  match fuel, stages with
  | 0, _ => pure (.killed 9)
  | _, [] => pure .next
  | fuel + 1, [c] => do
    let flow ← inSubshell (do
      if let some bytes := input then setFd 0 (some (.data bytes))
      let f ← runCommand fuel true c
      finishShell fuel f)
    waited flow
  | fuel + 1, c :: more => do
    let saved := (← get).captured
    modify fun s => { s with captured := .empty }
    let flow ← inSubshell (do
      if let some bytes := input then setFd 0 (some (.data bytes))
      setFd 1 (some .capture)
      let f ← runCommand fuel true c
      finishShell fuel f)
    let out := (← get).captured
    modify fun s => { s with captured := saved }
    if flow == .killed 9 && (← exhausted) then return .killed 9
    runStages fuel (some out.toList) more

/-- Run one command, then take the signals sent to the shell meanwhile. -/
def runCommand (fuel : Nat) (tested : Bool) (c : Command) : ShellM Flow :=
  match fuel with
  | 0 => pure (.killed 9)
  | fuel + 1 => do
    match ← runCommandBody fuel tested c with
    | .next => deliverSignals fuel
    | other => pure other

/-- Run one command. -/
def runCommandBody (fuel : Nat) (tested : Bool) (c : Command) : ShellM Flow :=
  match fuel, c with
  | 0, _ => pure (.killed 9)
  | fuel + 1, .simple line assigns words redirects => do
    modify fun s => { s with line }
    if !(← spend) then return .killed 9
    runSimple fuel tested assigns words redirects
  | fuel + 1, .conditional arms otherwise redirects =>
    withRedirects fuel redirects (runArms fuel tested arms otherwise)
  | fuel + 1, .loop negated cond body redirects =>
    withRedirects fuel redirects (do
      modify fun s => { s with loops := s.loops + 1 }
      let flow ← runLoop fuel negated cond body 0
      modify fun s => { s with loops := s.loops - 1 }
      pure flow)
  | fuel + 1, .forEach var items body redirects => do
    let values ← match items with
      | some ws => expandWords fuel ws
      | none => do pure (← get).args
    if let some flow ← stopped then return flow
    withRedirects fuel redirects (do
      modify fun s => { s with loops := s.loops + 1 }
      let flow ← runFor fuel var values body 0
      modify fun s => { s with loops := s.loops - 1 }
      pure flow)
  | fuel + 1, .choice subject arms redirects =>
    withRedirects fuel redirects (do
      let text ← expandJoined fuel subject
      if let some flow ← stopped then return flow
      setStatus 0
      runCase fuel tested text.toList arms)
  | _, .function name body => do
    modify fun s => { s with functions := (name, body) :: s.functions.filter (·.1 != name) }
    finish 0
  | fuel + 1, .group body false redirects =>
    withRedirects fuel redirects (runScript fuel tested body)
  | fuel + 1, .group body true redirects =>
    withRedirects fuel redirects (do
      let flow ← inSubshell (do
        let f ← runScript fuel tested body
        finishShell fuel f)
      waited flow)

/-- The arms of a conditional. -/
def runArms (fuel : Nat) (tested : Bool) (arms : List (Script × Script))
    (otherwise : Option Script) : ShellM Flow :=
  match fuel, arms with
  | 0, _ => pure (.killed 9)
  | fuel + 1, [] =>
    match otherwise with
    | some body => runScript fuel tested body
    | none => do setStatus 0; pure .next
  | fuel + 1, (cond, body) :: more => do
    match ← runScript fuel true cond with
    | .next =>
      if (← get).status == 0 then runScript fuel tested body
      else runArms fuel tested more otherwise
    | other => pure other

/-- The arms of a `case`: the body of the first arm with a pattern matching the subject runs. -/
def runCase (fuel : Nat) (tested : Bool) (subject : List Char)
    (arms : List (List Word × Script)) : ShellM Flow :=
  match fuel, arms with
  | 0, _ => pure (.killed 9)
  | _, [] => pure .next
  | fuel + 1, (patterns, body) :: more => do
    if ← anyMatches fuel subject patterns then runScript fuel tested body
    else runCase fuel tested subject more

/-- Whether one of some patterns matches a subject. -/
def anyMatches (fuel : Nat) (subject : List Char) (patterns : List Word) : ShellM Bool :=
  match fuel, patterns with
  | 0, _ => pure false
  | _, [] => pure false
  | fuel + 1, p :: more => do
    let cs ← patternChars fuel p
    if (Pattern.compile cs).accepts subject then pure true else anyMatches fuel subject more

/-- A `while` (or, `negated`, an `until`) loop; `last` is the status of the last body run. -/
def runLoop (fuel : Nat) (negated : Bool) (cond body : Script) (last : Nat) : ShellM Flow :=
  match fuel with
  | 0 => pure (.killed 9)
  | fuel + 1 => do
    if !(← spend) then return .killed 9
    match ← runScript fuel true cond with
    | .next =>
      if ((← get).status == 0) != negated then
        match ← runScript fuel false body with
        | .next | .continueLoop 1 => runLoop fuel negated cond body (← get).status
        | .breakLoop 1 => pure .next
        | .breakLoop (n + 1) => pure (.breakLoop n)
        | .continueLoop (n + 1) => pure (.continueLoop n)
        | other => pure other
      else do setStatus last; pure .next
    | .continueLoop 1 => runLoop fuel negated cond body last
    | .breakLoop 1 => pure .next
    | .breakLoop (n + 1) => pure (.breakLoop n)
    | .continueLoop (n + 1) => pure (.continueLoop n)
    | other => pure other

/-- A `for` loop over values; `last` is the status of the last body run. -/
def runFor (fuel : Nat) (var : String) (values : List String) (body : Script) (last : Nat) :
    ShellM Flow :=
  match fuel, values with
  | 0, _ => pure (.killed 9)
  | _, [] => do setStatus last; pure .next
  | fuel + 1, v :: more => do
    if !(← spend) then return .killed 9
    if let some e ← setVar var v then
      diagnose e
      return .exit 2
    match ← runScript fuel false body with
    | .next | .continueLoop 1 => runFor fuel var more body (← get).status
    | .breakLoop 1 => pure .next
    | .breakLoop (n + 1) => pure (.breakLoop n)
    | .continueLoop (n + 1) => pure (.continueLoop n)
    | other => pure other

/-- A simple command: its words expanded, its redirections opened, its assignments expanded,
traced, and run. -/
def runSimple (fuel : Nat) (tested : Bool) (assigns : List (String × Word)) (words : List Word)
    (redirects : List Redirect) : ShellM Flow :=
  match fuel with
  | 0 => pure (.killed 9)
  | fuel + 1 => do
    modify fun s => { s with substituted := 0 }
    let fields ← expandWords fuel words
    if let some flow ← stopped then return flow
    let before := (← get).fds
    let touched := redirectFds redirects
    let special := match fields with
      | name :: _ => isSpecial name
      | [] => false
    match ← openAll fuel redirects with
    | .error message =>
      diagnose message
      restoreFds before touched
      if let some flow ← stopped then return flow
      setStatus 2
      pure (if special then .exit 2 else .next)
    | .ok () =>
      if let some flow ← stopped then
        restoreFds before touched
        return flow
      let mut values : List (String × String) := []
      for (n, w) in assigns do
        values := values ++ [(n, ← expandAssign fuel w)]
      if let some flow ← stopped then
        restoreFds before touched
        return flow
      if (← get).options.xtrace then trace values fields
      let flow ← match fields with
        | [] => do
          for (n, v) in values do
            if let some e ← setVar n v then
              diagnose e
              return .exit 2
          setStatus (← get).substituted
          pure .next
        | name :: args => dispatch fuel tested name args values
      -- `exec` without a command keeps its redirections
      if !(fields.headD "" == "exec" && fields.length == 1) then restoreFds before touched
      pure flow

/-- Run a command by name, after its expansions. -/
def dispatch (fuel : Nat) (tested : Bool) (name : String) (args : List String) (values : List (String × String)) :
    ShellM Flow :=
  match fuel with
  | 0 => pure (.killed 9)
  | fuel + 1 => do
    let s ← get
    if isSpecial name then
      for (n, v) in values do
        if let some e ← setVar n v then
          diagnose e
          return .exit 2
      modify fun s => { s with writeFailed := false }
      let flow ← match name with
        | "eval" => evalText fuel tested args
        | "." => dotCommand fuel args
        | "exec" => execCommand fuel args values
        | _ => match builtin? name args with
          | some act => act
          | none => finish 0
      builtinWritten name flow
    else match s.functions.find? (·.1 == name) with
    | some (_, body) => do
      match ← setTemporary values false with
      | .error e =>
        diagnose e
        pure (.exit 2)
      | .ok saved =>
        let flow ← callFunction fuel tested body args
        restoreVars saved
        pure flow
    | none =>
      if builtinNames.contains name then
        match ← setTemporary values true with
        | .error e =>
          diagnose e
          pure (.exit 2)
        | .ok saved =>
          modify fun s => { s with writeFailed := false }
          let flow ← match name with
            | "command" => commandBuiltin fuel tested args values
            | "type" => typeBuiltin args
            | "wait" => do
              let jobs := (← get).jobs
              State.wait jobs args
            | _ => match builtin? name args with
              | some act => act
              | none => finish 0
          restoreVars saved
          builtinWritten name flow
      else runExternal fuel name args values

/-- A builtin that wrote to a descriptor that cannot take it fails. -/
def builtinWritten (name : String) (flow : Flow) : ShellM Flow :=
  match flow with
  | .next => do
    if (← get).writeFailed then
      modify fun s => { s with writeFailed := false }
      diagnose (name ++ ": I/O error")
      setStatus (max 1 (← get).status)
    pure .next
  | other => pure other

/-- `command [-v | -V] name args`: describe a command, or run it without looking at
functions. -/
def commandBuiltin (fuel : Nat) (tested : Bool) (args : List String) (values : List (String × String)) :
    ShellM Flow :=
  match fuel with
  | 0 => pure (.killed 9)
  | fuel + 1 => do
    let opts := args.takeWhile fun a => a.startsWith "-" && a.length > 1 && a != "--"
    let rest := args.drop opts.length
    let rest := match rest with
      | "--" :: more => more
      | _ => rest
    let letters := opts.flatMap fun o => o.toList.drop 1
    match letters.find? (fun c => !"pvV".toList.contains c) with
    | some c => builtinError "command" ("Illegal option -" ++ String.singleton c) 2
    | none =>
      if letters.contains 'v' || letters.contains 'V' then
        let verbose := letters.contains 'V'
        let mut status := 0
        for n in rest do
          let s ← get
          if keywords.contains n then
            print 1 (if verbose then n ++ " is a shell keyword\n" else n ++ "\n")
          else if (s.functions.find? (·.1 == n)).isSome then
            print 1 (if verbose then n ++ " is a shell function\n" else n ++ "\n")
          else if builtinNames.contains n then
            print 1 (if verbose then
              n ++ (if isSpecial n then " is a special shell builtin\n" else " is a shell builtin\n")
              else n ++ "\n")
          else
            match (if n.toList.contains '/' then
                (match s.stat n with
                 | .ok (.file _ m) => if executable m then Except.ok n else .error IoError.permissionDenied
                 | _ => .error .notFound)
              else s.locate n) with
            | .ok path => print 1 (if verbose then n ++ " is " ++ path ++ "\n" else path ++ "\n")
            | .error _ =>
              if verbose then print 1 (n ++ ": not found\n")
              status := 127
        finish status
      else
        match rest with
        | [] => finish 0
        | name :: more =>
          if builtinNames.contains name then
            match name with
            | "eval" => evalText fuel tested more
            | "." => dotCommand fuel more
            | "exec" => execCommand fuel more values
            | "command" => commandBuiltin fuel tested more values
            | "type" => typeBuiltin more
            | _ => match builtin? name more with
              | some act => do
                match ← act with
                | .exit 2 => if isSpecial name then pure .next else pure (.exit 2)
                | other => pure other
              | none => finish 0
          else runExternal fuel name more values

/-- `type names...`: what each name is as a command. -/
def typeBuiltin (args : List String) : ShellM Flow := do
  let mut status := 0
  for n in args do
    let s ← get
    if keywords.contains n then print 1 (n ++ " is a shell keyword\n")
    else if (s.functions.find? (·.1 == n)).isSome then print 1 (n ++ " is a shell function\n")
    else if builtinNames.contains n then
      print 1 (n ++ (if isSpecial n then " is a special shell builtin\n" else " is a shell builtin\n"))
    else
      match (if n.toList.contains '/' then
          (match s.stat n with
           | .ok (.file _ _) => Except.ok n
           | _ => .error IoError.notFound)
        else s.locate n) with
      | .ok path => print 1 (n ++ " is " ++ path ++ "\n")
      | .error _ =>
        print 1 (n ++ ": not found\n")
        status := 127
  finish status

/-- Run a function's body with its own positional parameters; its local variables get their
values back afterwards, and `return` ends it with a status. A call whose status is tested runs
its body tested too, so `set -e` does not end it. -/
def callFunction (fuel : Nat) (tested : Bool) (body : Command) (args : List String) : ShellM Flow :=
  match fuel with
  | 0 => pure (.killed 9)
  | fuel + 1 => do
    let before ← get
    set { before with args, frames := [] :: before.frames }
    let flow ← runCommand fuel tested body
    let after ← get
    let frame := after.frames.headD []
    set { after with args := before.args, frames := after.frames.drop 1 }
    restoreVars frame
    match flow with
    | .returned n => setStatus n; pure .next
    | other => pure other

/-- A command found through `PATH` (or named by a path): started as a program, its status
waited for. -/
def runExternal (fuel : Nat) (name : String) (args : List String) (values : List (String × String)) :
    ShellM Flow :=
  match fuel with
  | 0 => pure (.killed 9)
  | fuel + 1 => do
    let s ← get
    let env := s.envWith values
    let path := if name.toList.contains '/' then .ok name else s.locate name
    match path with
    | .error .permissionDenied =>
      diagnose (name ++ ": Permission denied")
      finish 126
    | .error _ =>
      diagnose (name ++ ": not found")
      finish 127
    | .ok path =>
      match ← startProgram fuel path name args env with
      | .ok flow => waited flow
      | .error .permissionDenied | .error .isADirectory =>
        diagnose (name ++ ": Permission denied")
        finish 126
      | .error .notFound | .error .notADirectory =>
        diagnose (name ++ ": not found")
        finish 127
      | .error e =>
        diagnose (name ++ ": " ++ e.description)
        finish 126

/-- Start a program the way the shell does: a file the kernel cannot start runs as a shell
script, `/bin/sh` reading it. -/
def startProgram (fuel : Nat) (path argv0 : String) (args : List String) (env : List (String × String)) :
    ShellM (Except IoError Flow) :=
  match fuel with
  | 0 => pure (.ok (.killed 9))
  | fuel + 1 => do
    match ← execProgram fuel path argv0 args env with
    | .error .execFormat => execProgram fuel "/bin/sh" "/bin/sh" (path :: args) env
    | other => pure other

/-- Start a program as a process of its own and run it to its end, the way the kernel starts
one: a missing file gives `notFound`, a directory or a file without execute permission
`permissionDenied`; a file that starts with `#!` runs its interpreter with the file's path in
front of the arguments; a program of the host runs as what its file name says; anything else
gives `execFormat`. -/
def execProgram (fuel : Nat) (path argv0 : String) (args : List String) (env : List (String × String)) :
    ShellM (Except IoError Flow) :=
  match fuel with
  | 0 => pure (.ok (.killed 9))
  | fuel + 1 => do
    let s ← get
    match s.stat path with
    | .error e => pure (.error e)
    | .ok (.dir _) | .ok (.device _) => pure (.error .permissionDenied)
    | .ok (.link _) => pure (.error .notFound)
    | .ok (.file data mode) =>
      if !executable mode then return .error .permissionDenied
      let head := (data.extract 0 256).toList
      if head.take 2 == [35, 33] then
        match interpreterLine (data.extract 0 256).toList with
        | none => pure (.error .execFormat)
        | some (interp, arg) =>
          execProgram fuel interp interp (arg.toList ++ path :: args) env
      else if head.take 4 == binaryMagic then
        let file := (Path.fileName? (treePath path)).getD path
        if file == "sh" || file == "dash" then
          pure (.ok (← runChildShell fuel argv0 args env))
        else if file == "env" then
          pure (.ok (← envProgram fuel argv0 args env))
        else if file == "awk" || file == "mawk" then
          let host : Awk.Host := { shell := fun cmd input capture => shellFor fuel env cmd input capture }
          pure (.ok (← runUtility (Utility.awk host { argv0, args, env })))
        else if ["xargs", "timeout", "nice", "nohup"].contains file then
          -- the commands these run are found through the program's own `PATH`
          let start (quietInput : Bool) (argv : List String) : ShellM Utility.Started := do
            match argv with
            | [] => pure (.exited 0)
            | name :: rest =>
              let s ← get
              match (if name.toList.contains '/' then .ok name else s.envSearch env name) with
              | .error e => pure (.failed e)
              | .ok found =>
                let before := s.fds
                if quietInput then setFd 0 (some (.data []))
                let r ← startProgram fuel found name rest env
                if quietInput then restoreFds before [0]
                match r with
                | .error e => pure (.failed e)
                | .ok (.killed sig) => pure (.killed sig)
                | .ok flow => pure (.exited (statusOf flow (← get) % 256))
          let inv : Utility.Invocation := { argv0, args, env }
          let act := match file with
            | "xargs" => Utility.xargs { start } inv
            | "timeout" => Utility.timeout { start } inv
            | "nice" => Utility.nice { start } inv
            | _ => Utility.nohup { start } inv
          pure (.ok (← runUtility act))
        else match Utility.run? file { argv0, args, env } with
          | some act => pure (.ok (← runUtility act))
          | none => pure (.error .execFormat)
      else pure (.error .execFormat)

/-- Run a command line as `sh -c` does, for a utility: with some input (`none`: the utility's
own), its output captured or not. The status and what it wrote, when captured. -/
def shellFor (fuel : Nat) (env : List (String × String)) (cmd : String) (input : Option (List UInt8))
    (capture : Bool) : ShellM (Nat × List UInt8) :=
  match fuel with
  | 0 => pure (137, [])
  | fuel + 1 => do
    let before ← get
    if let some bytes := input then setFd 0 (some (.data bytes))
    if capture then
      modify fun s => { s with captured := .empty }
      setFd 1 (some .capture)
    let flow ← runChildShell fuel "sh" ["-c", cmd] env
    let after ← get
    let out := if capture then after.captured.toList else []
    let touched := (if input.isSome then [0] else []) ++ (if capture then [1] else [])
    set { after with captured := if capture then before.captured else after.captured }
    restoreFds before.fds touched
    pure (statusOf flow after, out)

/-- Run a new shell as a process of its own. -/
def runChildShell (fuel : Nat) (argv0 : String) (args : List String) (env : List (String × String)) :
    ShellM Flow :=
  match fuel with
  | 0 => pure (.killed 9)
  | fuel + 1 => do
    let before ← get
    set (before.startProcess argv0 env)
    let flow ← shellMain fuel argv0 args
    let after ← get
    set (rejoin false before after)
    pure flow

/-- A shell from its arguments: its options, then the text after `-c`, a script file, or its
standard input, run one complete command at a time; then the action kept for its exit. -/
def shellMain (fuel : Nat) (argv0 : String) (args : List String) : ShellM Flow :=
  match fuel with
  | 0 => pure (.killed 9)
  | fuel + 1 => do
    match shellOptions args with
    | .error message =>
      diagnose message
      pure (.exit 2)
    | .ok (options, command, operands) =>
      modify fun s => { s with options }
      if command then
        match operands with
        | [] =>
          diagnose "-c requires an argument"
          pure (.exit 2)
        | text :: more =>
          let (name, params) := match more with
            | n :: ps => (n, ps)
            | [] => (argv0, [])
          modify fun s => { s with name, args := params }
          let flow ← runCommands fuel false "" { rest := text.toList, line := 1 }
          finishShell fuel flow
      else
        match operands with
        | path :: params =>
          let s ← get
          match s.readFile path with
          | .ok data =>
            modify fun s => { s with name := path, args := params }
            let flow ← runCommands fuel false "" { rest := (Octets.ofByteArray data).toList, line := 1 }
            finishShell fuel flow
          | .error e =>
            diagnose ("cannot open " ++ path ++ ": " ++ openReason e)
            pure (.exit 2)
        | [] =>
          let text ← (do
            match ← readAll with
            | some bs => pure (Octets.ofBytes bs)
            | none => pure "")
          let flow ← runCommands fuel false "" { rest := text.toList, line := 1 }
          finishShell fuel flow

/-- The end of a shell: unless a signal killed it, the action kept for its exit runs, and the
shell ends with the status it had or the one the action exits with. -/
def finishShell (fuel : Nat) (flow : Flow) : ShellM Flow :=
  match fuel with
  | 0 => pure flow
  | fuel + 1 => do
    let s ← get
    match flow with
    | .killed _ => pure flow
    | _ =>
      let status := statusOf flow s
      match s.traps.find? (·.1 == 0) with
      | none | some (_, "") => pure (.exit status)
      | some (_, action) =>
        set { s with traps := s.traps.filter (·.1 != 0), status }
        match ← runCommands fuel false "" { rest := action.toList, line := 1 } with
        | .exit n | .returned n => pure (.exit n)
        | .killed sig => pure (.killed sig)
        | _ => pure (.exit status)

/-- Run complete commands one after the other; a syntax error stops the shell when it is
reached, its message after `prefix`. `tested` marks commands whose status is tested (those of
an `eval` in a condition), so `set -e` leaves them be. -/
def runCommands (fuel : Nat) (tested : Bool) (prefixText : String) (c : Cursor) : ShellM Flow :=
  match fuel with
  | 0 => pure (.killed 9)
  | fuel + 1 =>
    match c.next with
    | .error e => do
      modify fun s => { s with line := e.line }
      diagnose (prefixText ++ e.message)
      pure (.exit 2)
    | .ok none => pure .next
    | .ok (some (script, rest)) => do
      if (← get).options.noexec then return (← runCommands fuel tested prefixText rest)
      match ← runScript fuel tested script with
      | .next | .breakLoop _ | .continueLoop _ => runCommands fuel tested prefixText rest
      | other => pure other

/-- `eval args...`: run the arguments, joined by blanks, as commands. -/
def evalText (fuel : Nat) (tested : Bool) (args : List String) : ShellM Flow :=
  match fuel with
  | 0 => pure (.killed 9)
  | fuel + 1 => do
    setStatus 0
    runCommands fuel tested "eval: " { rest := (" ".intercalate args).toList, line := 1 }

/-- `. file`: run the commands of a file in the shell itself; `return` ends them. -/
def dotCommand (fuel : Nat) (args : List String) : ShellM Flow :=
  match fuel with
  | 0 => pure (.killed 9)
  | fuel + 1 => do
    match args with
    | [] => finish 0
    | file :: _ =>
      let s ← get
      match s.locateReadable file with
      | none => fatal "." (file ++ ": not found")
      | some path =>
        match s.readFile path with
        | .error e => fatal "." ("cannot open " ++ path ++ ": " ++ openReason e)
        | .ok data =>
          setStatus 0
          match ← runCommands fuel false ".: " { rest := (Octets.ofByteArray data).toList, line := 1 } with
          | .returned n => setStatus n; pure .next
          | other => pure other

/-- `exec command args...`: the command takes the shell's place; the shell ends with its
status. -/
def execCommand (fuel : Nat) (args : List String) (values : List (String × String)) : ShellM Flow :=
  match fuel with
  | 0 => pure (.killed 9)
  | fuel + 1 => do
    match args with
    | [] => finish 0
    | name :: rest =>
      let s ← get
      let env := s.envWith values
      let path := if name.toList.contains '/' then .ok name else s.locate name
      match path with
      | .error .permissionDenied =>
        diagnose ("exec: " ++ name ++ ": Permission denied")
        pure (.exit 126)
      | .error _ =>
        diagnose ("exec: " ++ name ++ ": not found")
        pure (.exit 127)
      | .ok path =>
        match ← startProgram fuel path name rest env with
        | .ok (.killed sig) => pure (.killed sig)
        | .ok flow => pure (.exit (statusOf flow (← get)))
        | .error .notFound | .error .notADirectory =>
          diagnose ("exec: " ++ name ++ ": not found")
          pure (.exit 127)
        | .error e =>
          diagnose ("exec: " ++ name ++ ": " ++ e.description)
          pure (.exit 126)

/-- `env [-i] [-u name] [name=value]... [command args...]`: the environment, or a command run
with a changed one. -/
def envProgram (fuel : Nat) (argv0 : String) (args : List String) (env : List (String × String)) :
    ShellM Flow :=
  match fuel with
  | 0 => pure (.killed 9)
  | fuel + 1 => do
    let inv : Utility.Invocation := { argv0, args, env }
    let spec : Getopt.Spec :=
      { opts := [Getopt.flag "i" 'i' "ignore-environment", Getopt.flag "0" '0' "null",
          Getopt.withArg "u" 'u' "unset", Getopt.withArg "C" 'C' "chdir",
          Getopt.withArg "S" 'S' "split-string", { key := "v", short := some 'v', long := some "debug" }] ++
          Getopt.standard, inOrder := true }
    -- a lone `-` means `-i`
    let args := args.map fun a => if a == "-" then "-i" else a
    match Getopt.parse spec args with
    | .error e => pure (.exit (← Utility.misuse inv e 125))
    | .ok p =>
      let base := if p.has "i" then [] else env
      let base := base.filter fun (n, _) => !(p.all "u").contains n
      let assignments := p.operands.takeWhile fun a => a.toList.contains '='
      let command := p.operands.drop assignments.length
      let newEnv := assignments.foldl (fun acc a =>
        let n := String.ofList (a.toList.takeWhile (· != '='))
        let v := String.ofList (a.toList.drop (n.length + 1))
        (acc.filter (·.1 != n)) ++ [(n, v)]) base
      match command with
      | [] =>
        let ending := if p.has "0" then "\x00" else "\n"
        for (n, v) in newEnv do print 1 (n ++ "=" ++ v ++ ending)
        pure (.exit 0)
      | name :: rest =>
        let s ← get
        let path := if name.toList.contains '/' then .ok name else s.envSearch newEnv name
        let report (e : IoError) : ShellM Flow := do
          Utility.complain inv (Utility.quoteAlways name ++ ": " ++ e.description)
          pure (.exit (if e == .notFound then 127 else 126))
        match path with
        | .error e => report e
        | .ok path =>
          match ← startProgram fuel path name rest newEnv with
          | .ok flow => pure flow
          | .error e => report e

/-- Take the signals sent to the shell: a trapped one runs its action (the status kept), an
ignored one is dropped, and one whose default is to end the shell ends it. A subshell leaves
them to the shell. -/
def deliverSignals (fuel : Nat) : ShellM Flow :=
  match fuel with
  | 0 => pure .next
  | fuel + 1 => do
    let s ← get
    if s.self != s.pid then return .next
    match s.signals with
    | [] => pure .next
    | sig :: rest =>
      set { s with signals := rest }
      match s.traps.find? (·.1 == sig) with
      | some (_, "") => deliverSignals fuel
      | some (_, action) =>
        let status := s.status
        match ← runCommands fuel false "" { rest := action.toList, line := 1 } with
        | .next | .breakLoop _ | .continueLoop _ =>
          setStatus status
          deliverSignals fuel
        | other => pure other
      | none =>
        match Signal.defaultAction sig with
        | .terminate => pure (.killed sig)
        | _ => deliverSignals fuel

/-- Open redirections around a computation and undo them after it. A redirection that fails is
reported and gives status 2. -/
def withRedirects (fuel : Nat) (redirects : List Redirect) (act : ShellM Flow) : ShellM Flow :=
  match fuel with
  | 0 => pure (.killed 9)
  | fuel + 1 => do
    if redirects.isEmpty then return (← act)
    let before := (← get).fds
    let touched := redirectFds redirects
    match ← openAll fuel redirects with
    | .error message =>
      diagnose message
      restoreFds before touched
      if let some flow ← stopped then return flow
      setStatus 2
      pure .next
    | .ok () =>
      if let some flow ← stopped then
        restoreFds before touched
        return flow
      let flow ← act
      restoreFds before touched
      pure flow

/-- Open redirections in order. -/
def openAll (fuel : Nat) (redirects : List Redirect) : ShellM (Except String Unit) :=
  match fuel, redirects with
  | 0, _ => pure (.error "too many redirections")
  | _, [] => pure (.ok ())
  | fuel + 1, .mk fd kind target :: more => do
    let path ← if kind == .here then expandHere fuel target else expandRedirect fuel target
    if (← get).pendingExit.isSome || (← get).pendingKill.isSome then return .ok ()
    match ← openOne fd kind path with
    | .ok () => openAll fuel more
    | .error e => pure (.error e)

/-- Expand the target of a redirection: one text, a leading `~` taken. -/
def expandRedirect (fuel : Nat) (w : Word) : ShellM String :=
  match fuel with
  | 0 => pure ""
  | fuel + 1 => do
    let w ← tildeWord w false
    let f ← expandPieces fuel (Piece.allQuoted w) {}
    pure (" ".intercalate f.finish)

/-- Expand the text of a here-document. -/
def expandHere (fuel : Nat) (w : Word) : ShellM String :=
  match fuel with
  | 0 => pure ""
  | fuel + 1 => do
    let f ← expandPieces fuel (Piece.allQuoted w) {}
    pure (String.join f.finish)

/-- Expand words into fields. -/
def expandWords (fuel : Nat) (words : List Word) : ShellM (List String) :=
  match fuel, words with
  | 0, _ => pure []
  | _, [] => pure []
  | fuel + 1, w :: more => do
    let w ← tildeWord w false
    let f ← expandPieces fuel w {}
    let s ← get
    let fields := if s.options.noglob then f.finish
      else f.finishMarked.flatMap (globField s.files s.cwd)
    let rest ← expandWords fuel more
    pure (fields ++ rest)

/-- Expand a word into one text, without splitting (the subject of `case`). -/
def expandJoined (fuel : Nat) (w : Word) : ShellM String :=
  match fuel with
  | 0 => pure ""
  | fuel + 1 => do
    let f ← expandPieces fuel (Piece.allQuoted w) {}
    pure (" ".intercalate f.finish)

/-- Expand the value of an assignment: one text, `~` taken at its start and after each `:`. -/
def expandAssign (fuel : Nat) (w : Word) : ShellM String :=
  match fuel with
  | 0 => pure ""
  | fuel + 1 => do
    let w ← tildeWord w true
    let f ← expandPieces fuel (Piece.allQuoted w) {}
    pure (" ".intercalate f.finish)

/-- Expand the pieces of a word into the fields being built. -/
def expandPieces (fuel : Nat) (pieces : List Piece) (acc : Fields) : ShellM Fields :=
  match fuel, pieces with
  | 0, _ => pure acc
  | _, [] => pure acc
  | fuel + 1, p :: more => do
    let s ← get
    let ifs := s.ifs
    let add (text : String) (quoted : Bool) (f : Fields) : Fields :=
      if quoted then f.addText text true else f.addSplit ifs text
    let unsetError (n : String) : ShellM Unit := do
      if s.options.nounset && n != "@" && n != "*" then expansionFailed (n ++ ": parameter not set")
    let acc ← match p with
      | .lit t => pure (acc.addText t false)
      | .quoted t => pure (acc.addText t true)
      | .param "@" true =>
        match s.args with
        | [] => pure acc
        | a :: others => pure (others.foldl (fun f x => f.close.addText x true) (acc.addText a true))
      | .param "*" true => pure (acc.addText s.joinedArgs true)
      | .param "@" false | .param "*" false =>
        match s.args with
        | [] => pure acc
        | a :: others =>
          let one (f : Fields) (x : String) : Fields :=
            if ifs.isEmpty then (if x.isEmpty then f else f.addText x false) else f.addSplit ifs x
          pure (others.foldl (fun f x => one f.close x) (one acc a))
      | .param n quoted =>
        match s.param? n with
        | some v => pure (add v quoted acc)
        | none => do
          unsetError n
          pure (if quoted then acc.addText "" true else acc)
      | .length n quoted =>
        let v := if n == "@" || n == "*" then some s.joinedArgs else s.param? n
        match v with
        | some v => pure (add (toString v.length) quoted acc)
        | none => do
          unsetError n
          pure (add "0" quoted acc)
      | .modified n m colon word quoted =>
        let value := if n == "@" || n == "*" then (if s.args.isEmpty then none else some s.joinedArgs)
          else s.param? n
        let present := value.isSome && !(colon && (value.getD "").isEmpty)
        match m with
        | .orDefault =>
          if present then expandPieces fuel [.param n quoted] acc else expandPieces fuel word acc
        | .ifSet => if present then expandPieces fuel word acc else pure acc
        | .orAssign =>
          if present then expandPieces fuel [.param n quoted] acc
          else do
            let v ← expandJoined fuel word
            if isName n then
              match ← setVar n v with
              | some e => do
                expansionFailed e
                pure acc
              | none => pure (add v quoted acc)
            else do
              expansionFailed (n ++ ": bad variable name")
              pure acc
        | .orError =>
          if present then expandPieces fuel [.param n quoted] acc
          else do
            let message ← if word.isEmpty then
                pure (if colon then "parameter null or not set" else "parameter not set")
              else expandJoined fuel word
            expansionFailed (n ++ ": " ++ message)
            pure acc
        | .dropPrefix longest => do
          if value.isNone then unsetError n
          let pat := Pattern.compile (← patternChars fuel word)
          pure (add (String.ofList (pat.dropPrefix longest (value.getD "").toList)) quoted acc)
        | .dropSuffix longest => do
          if value.isNone then unsetError n
          let pat := Pattern.compile (← patternChars fuel word)
          pure (add (String.ofList (pat.dropSuffix longest (value.getD "").toList)) quoted acc)
      | .capture body quoted => do
        let saved := (← get).captured
        modify fun s => { s with captured := .empty }
        let flow ← inSubshell (do
          setFd 1 (some .capture)
          let f ← runScript fuel false body
          finishShell fuel f)
        let out := (← get).captured
        modify fun after => { after with captured := saved }
        if flow == .killed 9 && (← exhausted) then
          modify fun s => { s with pendingKill := some 9 }
          return acc
        let after ← get
        set { after with substituted := statusOf flow after, status := s.status }
        let bytes := out.toList.filter (· != 0)
        let bytes := (bytes.reverse.dropWhile (· == 10)).reverse
        pure (add (Octets.ofBytes bytes) quoted acc)
      | .arith expr quoted => do
        let text ← expandJoined fuel expr
        let now ← get
        match arithmetic text now.lookupVar with
        | .ok (v, assigned) => do
          for (n, value) in assigned.reverse do
            if let some e ← setVar n value then expansionFailed e
          pure (add (toString v) quoted acc)
        | .error (.message message) => do
          expansionFailed message
          pure acc
        | .error .divideOverflow => do
          modify fun s => { s with pendingKill := some 8 }
          pure acc
    expandPieces fuel more acc

/-- A word with a leading `~` (and in an assignment `~` after each `:`) replaced by the home
directory: `~` and `~/...` give `HOME`, `~root` gives `/root`; a `~` followed by quoted text or an
expansion, or naming another user, stays. -/
def tildeWord (w : Word) (assignment : Bool) : ShellM Word := do
  let s ← get
  let home (name : String) : Option String :=
    if name.isEmpty then s.lookupVar "HOME" else if name == "root" then some "/root" else none
  -- replace tildes in one literal text that is a whole segment start
  let expandSegment (seg : String) (isLast : Bool) : List Piece :=
    if !seg.startsWith "~" then [.lit seg]
    else
      let body := seg.toList.drop 1
      let name := body.takeWhile (· != '/')
      if name.length == body.length && !isLast then [.lit seg]
      else match home (String.ofList name) with
        | some h => [.quoted h, .lit (String.ofList (body.drop name.length))]
        | none => [.lit seg]
  match w with
  | .lit t :: rest =>
    if assignment then
      let segs := t.splitOn ":"
      let n := segs.length
      let pieces := segs.zipIdx.flatMap fun (seg, i) =>
        let isLast := i + 1 == n && rest.isEmpty
        let here := if i + 1 == n then expandSegment seg isLast else expandSegment seg true
        if i + 1 < n then here ++ [.lit ":"] else here
      pure (pieces ++ rest)
    else pure (expandSegment t rest.isEmpty ++ rest)
  | _ => pure w

/-- The characters of a pattern word, each marked `true` when it stands for itself: quoted text
and the text of quoted expansions. -/
def patternChars (fuel : Nat) (pieces : List Piece) : ShellM (List (Char × Bool)) :=
  match fuel, pieces with
  | 0, _ => pure []
  | _, [] => pure []
  | fuel + 1, p :: more => do
    let here ← match p with
      | .lit t => pure (t.toList.map fun c => (c, false))
      | .quoted t => pure (t.toList.map fun c => (c, true))
      | other => do
        let text ← expandJoined fuel [other]
        pure (text.toList.map fun c => (c, other.isQuoted))
    pure (here ++ (← patternChars fuel more))

/-- Open one redirection. -/
def openOne (fd : Nat) (kind : RedirectKind) (path : String) : ShellM (Except String Unit) := do
  let s ← get
  let dup (from_ : Nat) : ShellM (Except String Unit) := do
    match s.fd? from_ with
    | some d =>
      setFd fd (some d)
      pure (.ok ())
    | none => pure (.error (toString from_ ++ ": Bad file descriptor"))
  let device : Option (ShellM (Except String Unit)) :=
    match path with
    | "/dev/null" => some (do setFd fd (some .null); pure (.ok ()))
    | "/dev/zero" => some (do setFd fd (some .zero); pure (.ok ()))
    | "/dev/stdin" | "/dev/fd/0" => some (dup 0)
    | "/dev/stdout" | "/dev/fd/1" => some (dup 1)
    | "/dev/stderr" | "/dev/fd/2" => some (dup 2)
    | _ => none
  -- a character device gives the descriptor of its kind
  let opened (verb : String) : Option (ShellM (Except String Unit)) :=
    match (s.stat path).toOption with
    | some (.device d) => some (do
      match d with
      | .null => setFd fd (some .null)
      | .zero => setFd fd (some .zero)
      | .full => setFd fd (some .full)
      | .random | .urandom => setFd fd (some .random)
      | .tty => return .error (verb ++ path ++ ": " ++ IoError.noDevice.description)
      pure (.ok ()))
    | _ => none
  let device := device.orElse fun _ => opened (if kind == .read then "cannot open " else "cannot create ")
  match kind with
  | .here =>
    setFd fd (some (.data (Octets.toBytes path)))
    pure (.ok ())
  | .duplicate =>
    if path == "-" then
      setFd fd none
      pure (.ok ())
    else match path.toList with
      | [c] => if c.isDigit then dup (c.toNat - 48) else pure (.error "Syntax error: Bad fd number")
      | _ => pure (.error "Syntax error: Bad fd number")
  | .read =>
    match device with
    | some act => act
    | none =>
      match s.resolve path true with
      | .error e => pure (.error ("cannot open " ++ path ++ ": " ++ openReason e))
      | .ok loc =>
        match s.files.lookup loc with
        | none => pure (.error ("cannot open " ++ path ++ ": No such file"))
        | some _ =>
          let id ← addOpenFile { loc, readable := true, writable := false }
          setFd fd (some (.file id))
          pure (.ok ())
  | _ =>
    match device with
    | some act => act
    | none =>
      match s.resolve path true with
      | .error e => pure (.error ("cannot create " ++ path ++ ": " ++ createReason e))
      | .ok loc =>
        let existing := s.files.lookup loc
        match existing with
        | some (.dir _) => pure (.error ("cannot create " ++ path ++ ": Is a directory"))
        | _ =>
          if loc.isEmpty then return .error ("cannot create " ++ path ++ ": Is a directory")
          if kind == .write && s.options.noclobber && (existing.any Node.isFile) then
            return .error ("cannot create " ++ path ++ ": File exists")
          match existing with
          | some (.file data mode) =>
            if kind == .write || kind == .clobber then putNode loc (.file .empty mode)
            else putNode loc (.file data mode)
          | _ => putNode loc (.file .empty (s.createMode 0o666))
          let id ← addOpenFile { loc, append := kind == .append, readable := kind == .readWrite }
          setFd fd (some (.file id))
          pure (.ok ())
end

end HostAgent.Shell
