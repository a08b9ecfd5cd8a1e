import HostAgent.Shell.State

/-!
# `HostAgent.Shell.Process` — processes of the shell

A shell starts processes of three kinds, and each is a `State` made from the running one:

* a **subshell** (`( )`, a pipeline's stages, a command substitution, a command in the
  background) is a copy of the shell with a process number of its own; traps that are not
  ignored go back to their defaults (`forSubshell`);
* a **new shell** (`sh script`, `sh -c text`, a script without an interpreter line) starts
  from its environment alone: the exported variables, then the shell's own variables with their
  defaults (`startProcess`);
* a **utility** runs on the shell's state directly, since it changes nothing of the shell's own.

When a process ends, what it changed outside itself goes back to its parent (`rejoin`): the
files, the open file table, what was written to the output pipes and read from the input, and
the process numbers handed out. A subshell also hands back the signals sent to the shell,
which the shell takes when it has the control again.
-/

namespace HostAgent.Shell

open HostAgent.Host

namespace State

/-- The search path of a shell whose environment has no `PATH`. -/
def defaultPath : String := "/usr/local/sbin:/usr/local/bin:/usr/sbin:/usr/bin:/sbin:/bin"

/-- The variables a new shell starts with: its environment, exported, then those the shell
sets itself (`IFS`, the prompts, `OPTIND`, `PATH`, `PPID`, `PWD`) when the environment does not
give them. -/
def initialVars (env : List (String × String)) (parentPid : Nat) (pwd : String) :
    List (String × Variable) :=
  let fromEnv := env.reverse.foldl (fun (acc : List (String × Variable)) (n, v) =>
    if acc.any (·.1 == n) then acc else acc ++ [(n, { value := some v, exported := true })]) []
  let defaults : List (String × String) :=
    [("IFS", " \t\n"), ("PS1", "$ "), ("PS2", "> "), ("PS4", "+ "), ("OPTIND", "1"),
      ("PATH", defaultPath), ("PPID", toString parentPid), ("PWD", pwd)]
  let own := defaults.filterMap fun (n, v) =>
    if fromEnv.any (·.1 == n) && n != "PPID" then none else some (n, { value := some v : Variable })
  let fromEnv := fromEnv.filter fun (n, _) => n != "PPID"
  fromEnv ++ own

/-- The working directory a new shell names: `PWD` from the environment when it is absolute
and leads to the working directory, the directory's own path otherwise. -/
def startPwd (s : State) (env : List (String × String)) : String :=
  match env.reverse.find? (·.1 == "PWD") with
  | some (_, p) =>
    if p.startsWith "/" && (s.files.resolve [] (treePath p) true).toOption == some s.cwd then p
    else locationText s.cwd
  | none => locationText s.cwd

/-- A new shell process started from a running one: the world it sees is the same, its
variables come from its environment. -/
def startProcess (s : State) (name : String) (env : List (String × String)) : State :=
  let pid := s.nextPid
  let pwd := s.startPwd env
  { s with name, pid, self := pid, nextPid := pid + 1, lastAsync := none,
           vars := initialVars env s.self pwd, args := [], status := 0, substituted := 0,
           options := {}, pwd, writeFailed := false, line := 0, pendingKill := none,
           pendingExit := none, signals := [], functions := [], frames := [], traps := [],
           loops := 0, jobs := [] }

/-- A subshell of a running shell: the same shell with a process number of its own; traps that
are not ignored go back to their defaults. -/
def forSubshell (s : State) : State :=
  { s with self := s.nextPid, nextPid := s.nextPid + 1,
           traps := s.traps.filter fun (n, a) => a.isEmpty && n != 0 }

/-- The parent of a finished process, with what the process changed outside itself: the files
and their links, the open file table, the output written, the input read (also from
descriptors that hold bytes of their own), the process numbers handed out, the steps spent and
the time slept.
A subshell (`samePid`) also hands back the signals sent to the shell. -/
def rejoin (samePid : Bool) (parent child : State) : State :=
  let fds := parent.fds.map fun (fd, d) =>
    match d, child.fd? fd with
    | .data _, some (.data rest) => (fd, .data rest)
    | _, _ => (fd, d)
  { parent with files := child.files, links := child.links, openFiles := child.openFiles,
                nextFile := child.nextFile, stdinRest := child.stdinRest, stdout := child.stdout,
                stderr := child.stderr, captured := child.captured, nextPid := child.nextPid,
                budget := child.budget, elapsed := child.elapsed, heldBudget := child.heldBudget, fds,
                signals := if samePid then child.signals else parent.signals }

/-- The status a finished process leaves: its exit status, or `128` and the signal that killed
it. -/
def statusOf (flow : Flow) (s : State) : Nat :=
  match flow with
  | .exit n | .returned n => n
  | .killed sig => 128 + sig
  | _ => s.status

end State

end HostAgent.Shell
