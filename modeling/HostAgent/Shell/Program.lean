import HostAgent.Shell.Eval

/-!
# `HostAgent.Shell.Program` — starting a program on the host

`spawn` runs a program the way the host's process launcher does, on a file tree: a program name
without a slash is looked for in the directories of the search path, one with a slash is taken
relative to the working directory; the program then runs as `HostAgent.Shell.execProgram` starts
it. A file the kernel cannot start is an error here: unlike the shell, the launcher does not run
it as a script.

`ExitStatus.text` writes how a process ended as the host's process library shows it:
`exit status: N`, or `signal: N (SIGNAME)`.
-/

namespace HostAgent.Shell

open HostAgent.Host

/-- How a process ended. -/
inductive ExitStatus where
  /-- It exited with a status. -/
  | exited (code : Nat)
  /-- A signal killed it. -/
  | signaled (signal : Nat)
  deriving DecidableEq, Repr

/-- Whether the process succeeded. -/
def ExitStatus.success : ExitStatus → Bool
  | .exited 0 => true
  | _ => false

/-- How the process library shows an exit status. -/
def ExitStatus.text : ExitStatus → String
  | .exited code => "exit status: " ++ toString code
  | .signaled sig =>
    "signal: " ++ toString sig ++ match Signal.name? sig with
      | some n => " (SIG" ++ n ++ ")"
      | none => ""

/-- What a finished process leaves: its status, its output and error text, the files after it,
and how many bytes of its input it did not read. -/
structure Finished where
  status : ExitStatus
  stdout : ByteArray
  stderr : ByteArray
  files : FileTree
  unread : Nat

/-- The directories searched for a program name without a slash. -/
def searchPath : List String :=
  ["/usr/local/sbin", "/usr/local/bin", "/usr/sbin", "/usr/bin", "/sbin", "/bin"]

/-- The process number the first program started gets. -/
def shellPid : Nat := 4242

/-- Steps the programs of one start may take before they are stopped from outside. -/
def shellBudget : Nat := 5000000

/-- The programs of the host: the shell, `env`, `awk`, the utilities that run commands, and the
others. -/
def hostPrograms : List String := ["sh", "dash", "bash", "env", "awk", "mawk", "xargs", "timeout", "nice", "nohup"] ++ Utility.programs

/-- Where a program name leads: a path with a slash as it stands, a bare name through the
search path (a file without execute permission met on the way gives `permissionDenied` when
nothing better is found). -/
def locate (files : FileTree) (cwd : Location) (program : String) : Except IoError String :=
  if program.toList.contains '/' then .ok program
  else if program.isEmpty then .error .notFound
  else
    let rec search : List String → Bool → Except IoError String
      | [], denied => .error (if denied then .permissionDenied else .notFound)
      | dir :: more, denied =>
        let candidate := dir ++ "/" ++ program
        match files.stat cwd candidate with
        | .ok (.file _ mode) => if executable mode then .ok candidate else search more true
        | _ => search more denied
    search searchPath false

/-- Start a program with arguments, an environment, a working directory and standard input, and
run it to its end; the error when it cannot start. Unlike the shell, the launcher does not run a
file it cannot start as a script. -/
def spawn (files : FileTree) (cwd : Location) (env : List (String × String))
    (program : String) (args : List String) (stdin : ByteArray) : Except IoError Finished := do
  let path ← locate files cwd program
  let start : State :=
    { files, cwd, pwd := State.locationText cwd, name := program, pid := shellPid - 1,
      self := shellPid - 1, nextPid := shellPid, vars := [], args := [], stdinRest := stdin.toList,
      budget := shellBudget }
  let (result, s) := (execProgram (16 * shellBudget) path program args env).run start
  match result with
  | .error e => throw e
  | .ok flow =>
    let status : ExitStatus := match flow with
      | .killed sig => .signaled sig
      | other => .exited (State.statusOf other s % 256)
    pure { status, stdout := s.stdout, stderr := s.stderr, files := s.files,
           unread := s.stdinRest.length }

end HostAgent.Shell
