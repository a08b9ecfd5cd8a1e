/-!
# `HostAgent.Shell.Signals` — the host's signals

The signals of the host's kernel by number, with the names the shell gives them (without the
`SIG` prefix), what a process does with each when nothing was arranged for it, and how the
process library writes the status of a process one of them killed.

* `Signal.name?` and `Signal.number?` — a number's name, and the number a name (in any case,
  without `SIG`) or a decimal number below `Signal.count` stands for;
* `Signal.defaultAction` — a signal ends the process, is ignored (`CHLD`, `CONT`, `URG`,
  `WINCH`), or stops it (`STOP`, `TSTP`, `TTIN`, `TTOU`).
-/

namespace HostAgent.Shell

namespace Signal

/-- The named signals by number. -/
def table : List (Nat × String) :=
  [(1, "HUP"), (2, "INT"), (3, "QUIT"), (4, "ILL"), (5, "TRAP"), (6, "ABRT"), (7, "BUS"),
    (8, "FPE"), (9, "KILL"), (10, "USR1"), (11, "SEGV"), (12, "USR2"), (13, "PIPE"),
    (14, "ALRM"), (15, "TERM"), (16, "STKFLT"), (17, "CHLD"), (18, "CONT"), (19, "STOP"),
    (20, "TSTP"), (21, "TTIN"), (22, "TTOU"), (23, "URG"), (24, "XCPU"), (25, "XFSZ"),
    (26, "VTALRM"), (27, "PROF"), (28, "WINCH"), (29, "IO"), (30, "PWR"), (31, "SYS")]

/-- Signal numbers are below this. -/
def count : Nat := 65

/-- The signal a child process gets when it ends. -/
def child : Nat := 17

/-- The name of a signal number, without `SIG`. -/
def name? (n : Nat) : Option String := (table.find? (·.1 == n)).map (·.2)

/-- A text in upper case, for comparing names in any case. -/
def upper (s : String) : String := String.ofList (s.toList.map Char.toUpper)

/-- The number a signal name (any case, no `SIG`) or a decimal number below `count` stands
for. -/
def number? (spec : String) : Option Nat :=
  if !spec.isEmpty && spec.toList.all Char.isDigit then
    let n := spec.toList.foldl (fun v c => 10 * v + (c.toNat - 48)) 0
    if n < count then some n else none
  else (table.find? (·.2 == upper spec)).map (·.1)

/-- The C library's description of a signal, which the shell writes when a signal killed the
command it waited for. -/
def description (n : Nat) : String :=
  match n with
  | 1 => "Hangup"
  | 2 => "Interrupt"
  | 3 => "Quit"
  | 4 => "Illegal instruction"
  | 5 => "Trace/breakpoint trap"
  | 6 => "Aborted"
  | 7 => "Bus error"
  | 8 => "Floating point exception"
  | 9 => "Killed"
  | 10 => "User defined signal 1"
  | 11 => "Segmentation fault"
  | 12 => "User defined signal 2"
  | 13 => "Broken pipe"
  | 14 => "Alarm clock"
  | 15 => "Terminated"
  | 16 => "Stack fault"
  | 17 => "Child exited"
  | 18 => "Continued"
  | 19 => "Stopped (signal)"
  | 20 => "Stopped"
  | 21 => "Stopped (tty input)"
  | 22 => "Stopped (tty output)"
  | 23 => "Urgent I/O condition"
  | 24 => "CPU time limit exceeded"
  | 25 => "File size limit exceeded"
  | 26 => "Virtual timer expired"
  | 27 => "Profiling timer expired"
  | 28 => "Window changed"
  | 29 => "I/O possible"
  | 30 => "Power failure"
  | 31 => "Bad system call"
  | _ =>
    if 34 ≤ n && n ≤ 64 then "Real-time signal " ++ toString (n - 34)
    else "Unknown signal " ++ toString n

/-- What a process does with a signal nothing was arranged for. -/
inductive Action where
  | terminate
  | ignore
  | stop
  deriving DecidableEq, Repr

/-- The default action of a signal. -/
def defaultAction (n : Nat) : Action :=
  if n == 17 || n == 18 || n == 23 || n == 28 then .ignore
  else if 19 ≤ n && n ≤ 22 then .stop
  else .terminate

end Signal

end HostAgent.Shell
