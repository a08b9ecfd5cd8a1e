import HostAgent.Config.Basic

/-!
# `HostAgent.Cli.Options` — the command line of the agent

The agent's command line is a list of options, each with a long name and maybe a one-letter
name: switches, options that take one value (`--config <FILE>`, `--retries <N>`,
`--display-name <NAME>`), and `--help` and `--version`, which print and stop.

`CommandLine.read` reads the words after the program name the way the argument library the
agent was built with reads them, and gives what they ask for (`Request`) or a `UsageError`:

* `--name` names an option; `--name=value` attaches a value, which a switch refuses;
* `-abc` names one-letter options one after the other;
* `--` makes every later word a plain word, and a plain word is refused, since the agent takes
  none;
* an option that takes a value takes the next word when it is not itself an option. The value is
  *pending* until the next option is acted on or the words end: only then is it checked (a number
  for `--retries`) and recorded, and only then is a second use of the option refused;
* `--help` and `--version` act when they are reached, after the pending value is settled;
* once all words are read, options that may not be used together are refused, the first option
  given that has a partner among the others being reported.

An unknown long option is answered with the most similar known name when one is similar enough
(Jaro similarity above 0.7, `jaroAbove`). Every error message ends with a usage line that names
the options given so far, or `[OPTIONS]`.

## Contents
- `OptionSpec`, `options`, `helpText`, `versionText` — the options and the texts about them.
- `Invocation` — what a successful reading asks for; `Invocation.apply` lays it over settings.
- `UsageError.render` — the error text.
- `CommandLine.read` — the reader.
-/

namespace HostAgent.Cli

open HostAgent.Config

/-- The program's name. -/
def programName : String := "hostwatch"

/-- The program's version. -/
def programVersion : String := "0.1.0"

/-- What the program is, the first line of its help. -/
def programAbout : String := "Host data collection agent"

/-- How an option's value is checked. -/
inductive ValueKind where
  /-- Any text. -/
  | text
  /-- A count that fits in 32 bits. -/
  | count
  deriving DecidableEq, Repr

/-- What an option does when it is given. -/
inductive Action where
  /-- A switch: given or not. -/
  | flag
  /-- An option with one value, shown as `<name>`. -/
  | value (name : String) (kind : ValueKind)
  /-- Print the help text and stop. -/
  | help
  /-- Print the version and stop. -/
  | version
  deriving DecidableEq, Repr

/-- One option of the command line. -/
structure OptionSpec where
  /-- The long name, written after `--`; it also names the option. -/
  long : String
  /-- The one-letter name, written after `-`. -/
  short : Option Char := none
  action : Action := .flag
  /-- The option's line in the help text. -/
  about : String
  /-- The value used when the option is not given, shown in the help text. -/
  default : Option String := none
  /-- The long names of the options this one may not be given with. -/
  conflicts : List String := []
  deriving DecidableEq, Repr

namespace OptionSpec

/-- How messages name an option: `--long`, and ` <NAME>` after it when it takes a value. -/
def shown (o : OptionSpec) : String :=
  "--" ++ o.long ++ match o.action with
    | .value name _ => " <" ++ name ++ ">"
    | _ => ""

/-- Whether the option takes a value. -/
def takesValue (o : OptionSpec) : Bool :=
  match o.action with
  | .value _ _ => true
  | _ => false

/-- The option's name column in the help text. -/
def helpName (o : OptionSpec) : String :=
  (match o.short with
    | some c => "  -" ++ String.singleton c ++ ", "
    | none => "      ") ++ o.shown

/-- The option's help text after its name column. -/
def helpAbout (o : OptionSpec) : String :=
  o.about ++ match o.default with
    | some d => " [default: " ++ d ++ "]"
    | none => ""

end OptionSpec

/-- The options, in the order the help text lists them. -/
def options : List OptionSpec :=
  [ { long := "config", action := .value "FILE" .text, about := "Configuration file",
      default := some defaultPath },
    { long := "register", about := "Register this host with the remote service" },
    { long := "reregister",
      about := "Discard local registration state and machine id, then register" },
    { long := "unregister", about := "Unregister this host",
      conflicts := ["register", "reregister"] },
    { long := "force",
      about := "With --unregister: clean up locally even if the remote call fails" },
    { long := "offline", about := "Collect without contacting the remote service" },
    { long := "legacy-upload", about := "Use the legacy registration/upload protocol",
      conflicts := ["no-legacy-upload"] },
    { long := "no-legacy-upload", about := "Use the modern upload protocol" },
    { long := "retries", action := .value "N" .count, about := "Number of upload attempts" },
    { long := "display-name", action := .value "NAME" .text,
      about := "Name this host is reported under" },
    { long := "core-collect", about := "Run the reduced core collection" },
    { long := "verbose", short := some 'v', about := "Log debug output to the console" },
    { long := "quiet", about := "Only log errors to the console" },
    { long := "silent", about := "Log nothing to the console" },
    { long := "rotate-log", about := "Roll the log file over before running" },
    { long := "help", short := some 'h', action := .help, about := "Print help" },
    { long := "version", short := some 'V', action := .version, about := "Print version" } ]

/-- The option with a long name. -/
def findLong? (name : String) : Option OptionSpec := options.find? (·.long == name)

/-- The option with a one-letter name. -/
def findShort? (c : Char) : Option OptionSpec := options.find? (·.short == some c)

/-- The help text: what the program is, its usage and one line per option, the descriptions
lined up two blanks after the widest name column. -/
def helpText : String :=
  let width := (options.map fun o => o.helpName.length).foldl max 0
  let line (o : OptionSpec) : String :=
    o.helpName ++ String.ofList (List.replicate (width + 2 - o.helpName.length) ' ') ++
      o.helpAbout ++ "\n"
  programAbout ++ "\n\nUsage: " ++ programName ++ " [OPTIONS]\n\nOptions:\n" ++
    String.join (options.map line)

/-- The version text. -/
def versionText : String := programName ++ " " ++ programVersion ++ "\n"

/-! ## Checking values -/

/-- A signed 64-bit integer in decimal, with an optional sign, or why the text is not one. -/
def parseInt64 (s : String) : Except String Int :=
  let (negative, digits) := match s.toList with
    | '-' :: rest => (true, rest)
    | '+' :: rest => (false, rest)
    | cs => (false, cs)
  if s.isEmpty then .error "cannot parse integer from empty string"
  else if digits.isEmpty then .error "invalid digit found in string"
  else
    let step (acc : Int) (c : Char) : Except String Int :=
      if !c.isDigit then .error "invalid digit found in string"
      else
        let d : Int := (c.toNat - 48 : Nat)
        let next := if negative then acc * 10 - d else acc * 10 + d
        if next > 9223372036854775807 then .error "number too large to fit in target type"
        else if next < -9223372036854775808 then .error "number too small to fit in target type"
        else .ok next
    digits.foldlM step 0

/-- Check a value of an option; the reason when it is refused. -/
def checkValue (kind : ValueKind) (text : String) : Except String Unit :=
  match kind with
  | .text => .ok ()
  | .count => do
    let n ← parseInt64 text
    if 0 ≤ n ∧ n ≤ 4294967295 then pure ()
    else throw (toString n ++ " is not in 0..=4294967295")

/-! ## What the command line asks for -/

/-- The options of a successful reading. -/
structure Invocation where
  config : String := defaultPath
  register : Bool := false
  reregister : Bool := false
  unregister : Bool := false
  force : Bool := false
  offline : Bool := false
  legacyUpload : Bool := false
  noLegacyUpload : Bool := false
  retries : Option Nat := none
  displayName : Option String := none
  coreCollect : Bool := false
  verbose : Bool := false
  quiet : Bool := false
  silent : Bool := false
  rotateLog : Bool := false
  deriving DecidableEq, Repr

namespace Invocation

/-- Record one option given with its value. -/
def given (i : Invocation) (long : String) (value : String) : Invocation :=
  match long with
  | "config" => { i with config := value }
  | "register" => { i with register := true }
  | "reregister" => { i with reregister := true }
  | "unregister" => { i with unregister := true }
  | "force" => { i with force := true }
  | "offline" => { i with offline := true }
  | "legacy-upload" => { i with legacyUpload := true }
  | "no-legacy-upload" => { i with noLegacyUpload := true }
  | "retries" => { i with retries := match parseInt64 value with
      | .ok n => some n.toNat
      | .error _ => none }
  | "display-name" => { i with displayName := some value }
  | "core-collect" => { i with coreCollect := true }
  | "verbose" => { i with verbose := true }
  | "quiet" => { i with quiet := true }
  | "silent" => { i with silent := true }
  | "rotate-log" => { i with rotateLog := true }
  | _ => i

/-- Lay the command line over settings: switches only turn settings on, `--legacy-upload` wins
over `--no-legacy-upload`, and the two values replace what the settings say. -/
def apply (i : Invocation) (c : AgentConfig) : AgentConfig :=
  let legacyUpload :=
    if i.legacyUpload then true else if i.noLegacyUpload then false else c.legacyUpload
  { c with
    register := c.register || i.register
    reregister := c.reregister || i.reregister
    unregister := c.unregister || i.unregister
    force := c.force || i.force
    offline := c.offline || i.offline
    coreCollect := c.coreCollect || i.coreCollect
    legacyUpload
    retries := i.retries.getD c.retries
    displayName := match i.displayName with
      | some n => some n
      | none => c.displayName }

end Invocation

/-- A refused command line: the message, an optional tip, and the options the usage line names
(`none` for no usage line, the empty list for `[OPTIONS]`). -/
structure UsageError where
  message : String
  tip : Option String := none
  usage : Option (List String) := none
  deriving DecidableEq, Repr

/-- The error text, as printed on the error stream. -/
def UsageError.render (e : UsageError) : String :=
  let tip := match e.tip with
    | some t => "\n\n  tip: " ++ t
    | none => ""
  let usage := match e.usage with
    | some [] => "\n\nUsage: " ++ programName ++ " [OPTIONS]"
    | some used => "\n\nUsage: " ++ programName ++ " " ++ " ".intercalate used
    | none => ""
  "error: " ++ e.message ++ tip ++ usage ++ "\n\nFor more information, try '--help'.\n"

/-- What a command line asks for. -/
inductive Request where
  /-- Run the agent. -/
  | run (i : Invocation)
  /-- Print the help text. -/
  | help
  /-- Print the version. -/
  | version
  /-- Refuse the command line. -/
  | refuse (e : UsageError)
  deriving DecidableEq, Repr

/-! ## Similar names -/

/-- The matched characters and the transpositions between two texts, as Jaro similarity counts
them: characters match when equal and no further apart than half the longer length less one. -/
def jaroCounts (a b : List Char) : Nat × Nat :=
  let range := max a.length b.length / 2 - 1
  let bs := b.toArray
  let step (acc : List Bool × Array Bool) (ic : Nat × Char) : List Bool × Array Bool :=
    let (aFlags, bFlags) := acc
    let (i, c) := ic
    let lo := i - range
    let hi := min b.length (i + range + 1)
    match (List.range' lo (hi - lo)).find? (fun j => bs.getD j ' ' == c && !bFlags.getD j true) with
    | some j => (aFlags ++ [true], bFlags.setIfInBounds j true)
    | none => (aFlags ++ [false], bFlags)
  let (aFlags, bFlags) := (a.zipIdx.map fun (c, i) => (i, c)).foldl step
    ([], Array.replicate b.length false)
  let pick (cs : List Char) (flags : List Bool) : List Char :=
    (cs.zip flags).filterMap fun (c, f) => if f then some c else none
  let am := pick a aFlags
  let bm := pick b bFlags.toList
  (am.length, ((am.zip bm).filter fun (x, y) => x != y).length / 2)

/-- The Jaro similarity of two non-empty texts as a fraction: numerator and denominator of
`(m / |a| + m / |b| + (m - t) / m) / 3`, or `0 / 1` when nothing matches. -/
def jaroFraction (a b : String) : Nat × Nat :=
  let la := a.length
  let lb := b.length
  let (m, t) := jaroCounts a.toList b.toList
  if la == 0 || lb == 0 || m == 0 then (0, 1)
  else (m * m * lb + m * m * la + (m - t) * la * lb, 3 * la * lb * m)

/-- Whether the Jaro similarity of two texts is above 0.7. -/
def jaroAbove (a b : String) : Bool :=
  let (n, d) := jaroFraction a b
  10 * n > 7 * d

/-- The known long name most similar to `name`, when one is similar enough; of equally similar
names the last in the list wins. -/
def suggestion? (name : String) : Option String :=
  let longs := options.map (·.long)
  let better (best : Option String) (candidate : String) : Option String :=
    if !jaroAbove name candidate then best
    else match best with
      | none => some candidate
      | some b =>
        let (n1, d1) := jaroFraction name b
        let (n2, d2) := jaroFraction name candidate
        if n2 * d1 ≥ n1 * d2 then some candidate else some b
  longs.foldl better none

/-! ## Reading the words -/

/-- Where the reading stands. -/
structure Scan where
  /-- The options recorded so far, in the order recorded, with their values. -/
  given : List (OptionSpec × String) := []
  /-- The option waiting to be recorded, with the values it has. -/
  pending : Option (OptionSpec × List String) := none
  /-- Whether the next plain word is the pending option's value. -/
  wantsValue : Bool := false
  /-- Whether `--` was read. -/
  trailing : Bool := false

/-- Why reading stopped before the end. -/
inductive Stop where
  | help
  | version
  | refuse (e : UsageError)

/-- The usage line's names of the options recorded so far. -/
def Scan.used (s : Scan) : List String := s.given.map fun (o, _) => o.shown

/-- Whether an option is recorded. -/
def Scan.has (s : Scan) (o : OptionSpec) : Bool := s.given.any fun (g, _) => g.long == o.long

/-- Forget a recorded option: a second use is refused and takes the first with it. -/
def Scan.drop (s : Scan) (o : OptionSpec) : Scan :=
  { s with given := s.given.filter fun (g, _) => g.long != o.long }

/-- A second use of an option. -/
def multipleUse (o : OptionSpec) : UsageError :=
  { message := "the argument '" ++ o.shown ++ "' cannot be used multiple times", usage := some [] }

/-- Act on an option with its values: record it, or stop. The scan is returned even when
reading stops, since a refused value leaves its option recorded and a second use forgets the
first: it matters when the stop is ignored, as before an unknown option. -/
def act (s : Scan) (o : OptionSpec) (values : List String) : Scan × Option Stop :=
  match o.action with
  | .help => (s, some .help)
  | .version => (s, some .version)
  | .flag =>
    if s.has o then (s.drop o, some (.refuse (multipleUse o)))
    else ({ s with given := s.given ++ [(o, "true")] }, none)
  | .value _ kind =>
    match values with
    | [] => (s, some (.refuse { message := "a value is required for '" ++ o.shown ++
        "' but none was supplied" }))
    | v :: _ =>
      if s.has o then (s.drop o, some (.refuse (multipleUse o)))
      else
        let s := { s with given := s.given ++ [(o, v)] }
        match checkValue kind v with
        | .ok () => (s, none)
        | .error why => (s, some (.refuse
            { message := "invalid value '" ++ v ++ "' for '" ++ o.shown ++ "': " ++ why }))

/-- Record the pending option, if any. -/
def settle (s : Scan) : Scan × Option Stop :=
  match s.pending with
  | none => (s, none)
  | some (o, values) => act { s with pending := none, wantsValue := false } o values

/-- Settle the pending option, then act on `o`. -/
def react (s : Scan) (o : OptionSpec) (values : List String) : Scan × Option Stop :=
  match settle s with
  | (s, some stop) => (s, some stop)
  | (s, none) => act s o values

/-- A word the agent does not take. -/
def unexpected (word : String) : Stop :=
  .refuse { message := "unexpected argument '" ++ word ++ "' found", usage := some [] }

/-- An unknown long option, after settling what is pending: the most similar known name is
offered and joins the usage line. -/
def unknownLong (s : Scan) (name : String) : Stop :=
  let (s, _) := settle s
  match suggestion? name with
  | some long =>
    let extra := match findLong? long with
      | some o => if s.has o then [] else [o.shown]
      | none => []
    .refuse { message := "unexpected argument '--" ++ name ++ "' found",
              tip := some ("a similar argument exists: '--" ++ long ++ "'"),
              usage := some (s.used ++ extra) }
  | none => .refuse { message := "unexpected argument '--" ++ name ++ "' found",
                      usage := some s.used }

/-- One-letter options written together after `-`. -/
def shorts (s : Scan) : List Char → Except Stop Scan
  | [] => .ok s
  | c :: rest =>
    match findShort? c with
    | none =>
      .error (unexpected ("-" ++ String.singleton c))
    | some o =>
      match react s o [] with
      | (_, some stop) => .error stop
      | (s, none) => shorts { s with wantsValue := false } rest

/-- A long option `--name` or `--name=value`. -/
def long (s : Scan) (body : String) : Except Stop Scan :=
  let (name, attached) := match body.splitOn "=" with
    | [n] => (n, none)
    | n :: rest => (n, some ("=".intercalate rest))
    | [] => (body, none)
  match findLong? name with
  | none => .error (unknownLong s name)
  | some o =>
    if o.takesValue then
      match attached with
      | some v =>
        match react s o [v] with
        | (_, some stop) => .error stop
        | (s, none) => .ok { s with wantsValue := false }
      | none =>
        match settle s with
        | (_, some stop) => .error stop
        | (s, none) => .ok { s with pending := some (o, []), wantsValue := true }
    else
      match attached with
      | some v =>
        let used := s.used ++ [o.shown]
        .error (.refuse { message := "unexpected value '" ++ v ++ "' for '" ++ o.shown ++
          "' found; no more were expected", usage := some used })
      | none =>
        match react s o [] with
        | (_, some stop) => .error stop
        | (s, none) => .ok { s with wantsValue := false }

/-- One word. -/
def word (s : Scan) (w : String) : Except Stop Scan :=
  if s.trailing then .error (unexpected w)
  else if w == "--" then .ok { s with trailing := true }
  else if w.startsWith "--" then long s (String.ofList (w.toList.drop 2))
  else if w.startsWith "-" && w != "-" then shorts s (w.toList.drop 1)
  else if s.wantsValue then
    match s.pending with
    | some (o, values) => .ok { s with pending := some (o, values ++ [w]), wantsValue := false }
    | none => .error (unexpected w)
  else .error (unexpected w)

/-- The options recorded that `o` may not be used with, in the order recorded. -/
def conflictsOf (s : Scan) (o : OptionSpec) : List OptionSpec :=
  (s.given.map (·.1)).filter fun g =>
    g.long != o.long && (o.conflicts.contains g.long || g.conflicts.contains o.long)

/-- Refuse options used together that may not be: the first recorded option with a partner. -/
def checkConflicts (s : Scan) : Except Stop Unit :=
  match (s.given.map (·.1)).find? (fun o => !(conflictsOf s o).isEmpty) with
  | none => .ok ()
  | some o =>
    let others := conflictsOf s o
    let message := match others with
      | [g] => "the argument '" ++ o.shown ++ "' cannot be used with '" ++ g.shown ++ "'"
      | gs => "the argument '" ++ o.shown ++ "' cannot be used with:" ++
          String.join (gs.map fun g => "\n  " ++ g.shown)
    let used := (s.given.map (·.1)).filter (fun g => !others.contains g) |>.map (·.shown)
    .error (.refuse { message, usage := some used })

namespace CommandLine

/-- Read the words after the program name. -/
def read (words : List String) : Request :=
  let finish (s : Scan) : Except Stop Invocation := do
    let s ← match settle s with
      | (_, some stop) => throw stop
      | (s, none) => pure s
    checkConflicts s
    pure (s.given.foldl (fun i (o, v) => i.given o.long v) {})
  match words.foldlM word {} >>= finish with
  | .ok i => .run i
  | .error .help => .help
  | .error .version => .version
  | .error (.refuse e) => .refuse e

end CommandLine

end HostAgent.Cli
