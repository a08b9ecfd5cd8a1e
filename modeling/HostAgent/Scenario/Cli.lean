import HostAgent.Scenario.Http
import HostAgent.Cli.Session

/-!
# `HostAgent.Scenario.Cli` — the program run from its command line

`cli` writes the settings text `config_toml`, when given, to `T/hostwatch.toml` (mode 644),
prepares `T` (`plant`) and the environment (`env`), and runs the program in `T` with
`--config T/hostwatch.toml` in front of `args` (left out with `no_config_arg`). The address of
the test server is written `<server>` in the settings and the words, as in `http`.

The answer has the exit status, the lines of standard output and standard error, the requests
the server received (none: it cannot be reached) and the listing of `T` with directory modes.
Every line of the three texts is shown through `shownLine`: the server's address (also in the
listing), the time of a collection and the words after the names of faults whose details depend
on the host are masked.
A console line that starts with a time shows `<time>` and the level without its padding; a log
file line (any file under `log_dir`, `log` by default) that starts with a time shows only its
level and message. After a line about a settings file that cannot be parsed or a serialization
fault, standard error shows nothing more.
-/

namespace HostAgent.Scenario

open HostAgent.Json HostAgent.Host HostAgent.Cli

/-- Markers after which a line is cut. -/
def cutMarks : List String :=
  ["Transport error", "Serialization error", "Upload request failed",
    "Upload response is not valid JSON"]

/-- A line cut after the first marker in it. -/
def cutAfterMark (line : String) : String :=
  let found := cutMarks.filterMap fun m => match line.splitOn m with
    | before :: _ :: _ => some (before.length, before ++ m)
    | _ => none
  match found.mergeSort (fun a b => decide (a.1 ≤ b.1)) with
  | (_, cut) :: _ => cut
  | [] => line

/-- A line with the time of a collection written `<t>`. -/
def maskCollection (line : String) : String :=
  match line.splitOn "Collected " with
  | before :: after :: rest =>
    before ++ maskElapsed ("Collected " ++ "Collected ".intercalate (after :: rest))
  | _ => line

/-- A line as the answer shows it. -/
def shownLine (line : String) : String :=
  cutAfterPath (cutAfterMark (maskCollection (line.replace serverAddress "<server>")))

/-- The lines of a text; a final line break ends the last line. -/
def textLines (text : String) : List String :=
  match (text.splitOn "\n").reverse with
  | "" :: rest => rest.reverse
  | all => all.reverse

/-- Whether a line starts with a date `YYYY-MM-DDT`. -/
def startsWithStamp (line : String) : Bool :=
  let shape := "0000-00-00T".toList
  let head := line.toList.take shape.length
  head.length == shape.length &&
    (head.zip shape).all fun (c, s) => if s == '0' then c.isDigit else c == s

/-- A line without its first word and the blanks after it. -/
def afterFirstWord (line : String) : String :=
  String.ofList ((line.toList.dropWhile (· != ' ')).dropWhile (· == ' '))

/-- A console line: a time in front is written `<time>` and the level loses its padding. -/
def consoleLine (line : String) : String :=
  if startsWithStamp line then "<time> " ++ shownLine (afterFirstWord line) else shownLine line

/-- A log file line: a line with a time in front shows its level and message, or nothing when
it is not the agent's; other lines stay. -/
def logFileLine (line : String) : Option String :=
  if startsWithStamp line then
    let rest := afterFirstWord line
    let level := String.ofList (rest.toList.takeWhile (· != ' '))
    match (afterFirstWord rest).splitOn (logTarget ++ ": ") with
    | _ :: message :: more =>
      some (level ++ " " ++ shownLine ((logTarget ++ ": ").intercalate (message :: more)))
    | _ => none
  else some (shownLine line)

/-- The lines of standard error, up to a line after which details follow. -/
def errorLines (lines : List String) : List String :=
  let ends (l : String) : Bool :=
    ["Failed to parse config file", "Failed to parse removal config", "Serialization error"].any
      fun m => (l.splitOn m).length > 1
  match lines.findIdx? ends with
  | some i => (lines.take (i + 1)).map shownLine
  | none => lines.map shownLine

/-- The listing with the contents of log files shown line by line through `logFileLine`. -/
def withLogContents (logDir : String) (v : Value) : Value :=
  let isLog (p : String) : Bool := p == logDir || p.startsWith (logDir ++ "/")
  let shown (content : String) : String :=
    "\n".intercalate ((content.splitOn "\n").filterMap logFileLine)
  match v with
  | .arr entries => .arr (entries.map fun e => match e with
    | .obj fs =>
      match e.field? "path" with
      | some (.str p) =>
        if isLog p then .obj (fs.map fun (k, x) => match k, x with
          | "content", .str c => (k, .str (shown c))
          | _, _ => (k, x))
        else e
      | _ => e
    | other => other)
  | other => other

/-- The listing with the server's address written `<server>` in every text. -/
def withServerMasked (v : Value) : Value :=
  let field (kx : String × Value) : String × Value := match kx with
    | (k, .str s) => (k, .str (s.replace serverAddress "<server>"))
    | other => other
  match v with
  | .arr entries => .arr (entries.map fun e => match e with
    | .obj fs => .obj (fs.map field)
    | other => other)
  | other => other

/-- `cli`: the program run from its command line. -/
def cliOp (req : Value) : Reading Value := do
  checkReplies req
  let serverize (s : String) : String := (tmpify s).replace "<server>" serverAddress
  let args ← match opt req "args" with
    | some (.arr xs) => xs.mapM fun
      | .str s => pure (serverize s)
      | _ => throw "args must be strings"
    | none => pure []
    | _ => throw "args must be a list"
  let configPath := underTmp "hostwatch.toml"
  let words := (if (← flag req "no_config_arg") then [] else ["--config", configPath]) ++ args
  let w : World := { freshWorld with cwd := tmpLocation }
  let w ← match opt req "env" with
    | some e => applyEnv e w
    | none => pure w
  let w ← match ← optString req "config_toml" with
    | some text =>
      pure { w with files :=
        (w.files.writeFile [] configPath (serverize text).toUTF8 0o644).toOption.getD w.files }
    | none => pure w
  let stage ← ({ world := w } : Stage).plant (← plantsOf req)
  let (out, w) := (Program.run words).run stage.world
  let logDir := (← optString req "log_dir").getD "log"
  pure (.obj [("exit_code", .ofNat out.status),
    ("stdout", .ofStrings ((textLines out.stdout).map consoleLine)),
    ("stderr", .ofStrings (errorLines (textLines out.stderr))),
    ("requests", .arr []),
    ("files", withServerMasked (withLogContents logDir (listing w.files stage.planted true)))])

end HostAgent.Scenario
