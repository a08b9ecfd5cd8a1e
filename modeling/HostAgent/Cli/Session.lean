import HostAgent.Cli.Options
import HostAgent.Cli.Report
import HostAgent.Cli.Logging
import HostAgent.Config.Load
import HostAgent.Remote.Service
import HostAgent.Run

/-!
# `HostAgent.Cli.Session` — one execution of the program

`Program.run` takes the words after the program name and a world, and gives the exit status, the
text printed on standard output and on standard error, and the world after it:

1. the command line is read (`CommandLine.read`): `--help` and `--version` print their text and
   exit 0, a refused command line prints its error and exits 2;
2. the settings are loaded from the `--config` file (the defaults when it is missing), under the
   context line `Failed to load configuration from PATH`, and the options are laid over them;
3. with `--rotate-log` the log file is rolled over (`Failed to rotate PATH`);
4. logging starts: the log's directory is made (`Failed to create log directory for PATH`), a log
   path without a file name is refused (`Invalid log file path PATH`), and the log is opened —
   a log that cannot be opened aborts the program with status 101;
5. the agent runs with the HTTP client, a command collector from `collector_command`, a real
   sleeper and the cron schedule entry, and ends with a line for how it ended; a refused
   unregistration is an error of its own.

Every event from the start of logging on goes to the console and the log file (see
`HostAgent.Cli.Logging`). An error ends the program with status 1 and its report
(`HostAgent.Cli.Report`) on standard error.
-/

namespace HostAgent.Cli

open HostAgent.Host HostAgent.Config HostAgent.Remote HostAgent.Collection HostAgent.Store

/-- How an execution ended: its exit status and the text of its two output streams. -/
structure Outcome where
  status : Nat
  stdout : String := ""
  stderr : String := ""
  deriving DecidableEq, Repr

/-- Why an execution stops early. -/
inductive Ending where
  /-- An error, reported with status 1. -/
  | report (r : Report)
  /-- An abort with a message, status 101. -/
  | abort (message : String)
  deriving DecidableEq, Repr

/-- The outcome of an early stop, after what the console printed. -/
def Ending.outcome (e : Ending) (stdout : String) : Outcome :=
  match e with
  | .report r => { status := 1, stdout, stderr := r.render }
  | .abort message => { status := 101, stdout, stderr := message ++ "\n" }

/-- A step of an execution: it changes the world or stops early. -/
abbrev Session := ExceptT Ending (StateM World)

namespace Session

/-- An agent computation as a step: its fault is reported. -/
def agent (act : Agent α) : Session α := ExceptT.adapt (fun f => .report (Report.ofFault f)) act

/-- A step whose report gets a context line. -/
def withContext (line : String) (act : Session α) : Session α :=
  tryCatch act fun
    | .report r => throw (.report (r.context line))
    | other => throw other

/-- A change of the files as a step; its error is reported under a context line. -/
def files (line : String) (f : FileTree → Location → Except IoError FileTree) : Session Unit := do
  let w ← get
  match f w.files w.cwd with
  | .ok t => set { w with files := t }
  | .error e => throw (.report ((Report.ofIo e).context line))

/-- Changes of the files as a step: those made before a failure stay, and the failure is
reported under a context line. -/
def changes (line : String) (act : Location → FileChanges Unit) : Session Unit := do
  let w ← get
  let (r, t) := (act w.cwd).run w.files
  set { w with files := t }
  match r with
  | .ok () => pure ()
  | .error e => throw (.report ((Report.ofIo e).context line))

end Session

/-- Where the log file is and the first journal event it gets. -/
structure LogSink where
  path : String
  start : Nat
  deriving DecidableEq, Repr

/-- Start logging to `log`: make its directory, check it names a file and open it. -/
def startLogging (log : String) : Session LogSink := do
  Session.files ("Failed to create log directory for " ++ log) (LogFile.prepareDir log)
  let dir := (Path.parent? log).getD "."
  let some name := Path.fileName? log
    | throw (.report { message := "Invalid log file path " ++ log })
  let path := Path.join dir name
  let w ← get
  match LogFile.openForAppend path w.files w.cwd with
  | .ok t => set { w with files := t }
  | .error e => throw (.abort ("initializing rolling file appender failed: " ++ e.message))
  pure { path, start := (← get).journal.size }

/-- Load the settings, lay the options over them, roll the log over if asked and start
logging. -/
def setUp (i : Invocation) : Session (AgentConfig × LogSink) := do
  let c ← Session.withContext ("Failed to load configuration from " ++ i.config)
    (Session.agent (loadOrDefault i.config))
  let c := i.apply c
  if i.rotateLog then
    Session.changes ("Failed to rotate " ++ c.loggingFile) (LogFile.rotate c.loggingFile)
  let sink ← startLogging c.loggingFile
  pure (c, sink)

/-- The agent's run with the HTTP client and a command collector. -/
def work (i : Invocation) (c : AgentConfig) : Session Unit := do
  Session.agent (Agent.debug (programName ++ " " ++ programVersion ++ " using " ++ i.config))
  let service ← Session.agent (HttpService.create c ⟨c.stateDir⟩)
  let collector ← match CommandCollector.fromCommandLine c.collectorCommand c.cacheDir with
    | .ok k => pure k
    | .error f => throw (.report (Report.ofFault f))
  let o ← Session.agent
    (Orchestrator.create c (.http service) (.command collector) .real (.cron c.scheduleFile))
  match ← Session.agent o.run with
  | .uploaded s =>
    Session.agent (Agent.debug ("Upload finished after " ++ toString s.attempts ++ " attempt(s)"))
  | .collected archive => Session.agent (Agent.info ("Archive: " ++ archive))
  | .notRegistered | .unregistered => pure ()
  | .unregisterRefused =>
    throw (.report { message := "Unregistration failed. Please see " ++ c.loggingFile ++
      " for additional information" })

namespace Program

/-- One execution of the program with the words after its name. -/
def run (words : List String) : StateM World Outcome := do
  match CommandLine.read words with
  | .help => pure { status := 0, stdout := helpText }
  | .version => pure { status := 0, stdout := versionText }
  | .refuse e => pure { status := 2, stderr := e.render }
  | .run i =>
    match ← (setUp i).run with
    | .error e => pure (e.outcome "")
    | .ok (c, sink) =>
      let result ← (work i c).run
      let events := (← get).journal.toList.drop sink.start
      modify fun w => { w with files := LogFile.append sink.path (fileText events) w.files w.cwd }
      let stdout := (Console.ofOptions i.silent i.verbose i.quiet).render events
      pure (match result with
        | .ok () => { status := 0, stdout }
        | .error e => e.outcome stdout)

end Program

end HostAgent.Cli
