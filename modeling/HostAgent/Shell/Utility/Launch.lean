import HostAgent.Shell.Utility.Core

/-!
# `HostAgent.Shell.Utility.Launch` — utilities that run a command

`timeout`, `nice` and `nohup` run the command their operands name, through the host's
`Launcher`, and end with its status; a command that cannot be found gives 127, one that cannot
run 126, and a misuse of the utility itself 125.

`timeout duration command` stops the command, and every process it started, once it has run
for the duration. Only sleeping takes time on the host (`State.elapsed`), so the command is
stopped when its sleeping reaches the deadline (`State.pass`); the status is then 124 (with
`--preserve-status`, that of the signal). A duration of 0 sets no deadline.
-/

namespace HostAgent.Shell

open HostAgent.Host

namespace Utility

open Getopt

/-- The status a utility ends with for the command it ran. -/
def startedStatus (inv : Invocation) (name : String) (how : String) : Started → ShellM Nat
  | .exited n => pure n
  | .killed sig => pure (128 + sig)
  | .failed e => do
    complain inv (how ++ quoteAlways name ++ ": " ++ e.description)
    pure (if e == .notFound then 127 else 126)

/-- The options of `timeout`. -/
def timeoutSpec : Spec :=
  { opts := [withArg "s" 's' "signal", withArg "k" 'k' "kill-after", longFlag "preserve-status" "preserve-status",
      longFlag "foreground" "foreground", flag "v" 'v' "verbose"] ++ standard, inOrder := true }

/-- `timeout [-s signal] [-k duration] [--preserve-status] duration command [args]`. -/
def timeout (launcher : Launcher) (inv : Invocation) : UtilM :=
  withOptions inv timeoutSpec 125 fun p => do
    let signal ← match p.last? "s" with
      | none => pure (some 15)
      | some spec => pure (Signal.number? (if spec.startsWith "SIG" then String.ofList (spec.toList.drop 3) else spec))
    match signal with
    | none =>
      complain inv (quoteAlways ((p.last? "s").getD "") ++ ": invalid signal")
      State.print 2 (tryHelp inv.argv0 ++ "\n")
      pure 125
    | some sig =>
    match p.operands with
    | [] | [_] => misuse inv "missing operand" 125
    | duration :: command =>
      match intervalMillis? duration with
      | none => misuse inv ("invalid time interval " ++ quoteAlways duration) 125
      | some limit =>
        let s ← get
        let outer := s.deadline
        let mine := s.elapsed + limit
        if limit > 0 then
          set { s with deadline := some (match outer with | some d => min d mine | none => mine) }
        let started ← launcher.start false command
        let s ← get
        set { s with deadline := outer }
        match s.heldBudget with
        | some budget =>
          -- a deadline came; when it is this one, the command is stopped and the run goes on
          if limit > 0 && s.elapsed == mine then
            set { s with deadline := outer, heldBudget := none, budget }
            if p.has "v" then
              complain inv ("sending signal " ++ ((Signal.name? sig).getD (toString sig)) ++
                " to command " ++ quoteAlways (command.headD ""))
            pure (if p.has "preserve-status" then 128 + sig else 124)
          else pure 124
        | none => startedStatus inv (command.headD "") "failed to run command " started

/-- `nice [-n adjustment] [command [args]]`: run the command; without one, print the niceness. -/
def nice (launcher : Launcher) (inv : Invocation) : UtilM :=
  withOptions inv { opts := [withArg "n" 'n' "adjustment"] ++ standard, inOrder := true } 125 fun p => do
    match p.operands with
    | [] =>
      emitText "0\n"
      closeOutput inv 0
    | command => do
      let started ← launcher.start false command
      startedStatus inv (command.headD "") "" started

/-- `nohup command [args]`: run the command, which no hangup would stop. -/
def nohup (launcher : Launcher) (inv : Invocation) : UtilM :=
  withOptions inv { opts := standard, inOrder := true } 125 fun p => do
    match p.operands with
    | [] => misuse inv "missing operand" 125
    | command => do
      let started ← launcher.start false command
      startedStatus inv (command.headD "") "failed to run command " started

end Utility

end HostAgent.Shell
