import HostAgent.Host.World
import HostAgent.Config.Json
import HostAgent.Text.Hex
import HostAgent.Remote.Credentials
import HostAgent.Shell.Program

/-!
# `HostAgent.Scenario.Setup` — the world a request runs in

A request of the test protocol runs in a fresh world: a temporary directory `T` at `tmpRoot`, a
system host name `<hostname>`, a `/bin/sh`, no credential variables, an untouched scripted
service and an unreachable network. The text `<tmp>` in the request's paths and settings stands
for `T`.

This module reads the request's parts: byte values (a string, `text`, `hex`, or `repeat` and
`times`), durations in milliseconds, environment changes, preparations of `T` (`plant`), settings
(with the state, cache and schedule paths under `T` unless given), and scripts of the scripted
service. A request that does not fit is refused with a reason.
-/

namespace HostAgent.Scenario

open HostAgent.Json HostAgent.Host HostAgent.Config HostAgent.Remote HostAgent.Time
open HostAgent.Collection

/-- A reading of part of a request: its value, or why the request does not fit. -/
abbrev Reading (α : Type) := Except String α

/-- The temporary directory of a request. -/
def tmpRoot : String := "/tmp/tmpagentT0"

/-- The placeholder for the temporary directory. -/
def tmpMark : String := "<tmp>"

/-- Replace every `<tmp>` by the temporary directory. -/
def tmpify (s : String) : String := s.replace tmpMark tmpRoot

/-- The location of the temporary directory. -/
def tmpLocation : Location := Path.pieces tmpRoot

/-- A path of the request below `T`. -/
def underTmp (p : String) : String := Path.join tmpRoot p

mutual
/-- Every string of a document with `<tmp>` replaced. -/
def tmpifyValue : Value → Value
  | .str s => .str (tmpify s)
  | .arr items => .arr (tmpifyItems items)
  | .obj fields => .obj (tmpifyFields fields)
  | v => v

/-- `tmpifyValue` on each item. -/
def tmpifyItems : List Value → List Value
  | [] => []
  | v :: rest => tmpifyValue v :: tmpifyItems rest

/-- `tmpifyValue` on each field's value. -/
def tmpifyFields : List (String × Value) → List (String × Value)
  | [] => []
  | (k, v) :: rest => (k, tmpifyValue v) :: tmpifyFields rest
end

/-- A field of the request, if present and not `null`. -/
def opt (v : Value) (key : String) : Option Value :=
  match v.field? key with
  | some .null => none
  | other => other

/-- A required string field. -/
def reqString (v : Value) (key : String) : Reading String :=
  match v.field? key with
  | some (.str s) => .ok s
  | _ => .error (key ++ " must be a string")

/-- An optional string field. -/
def optString (v : Value) (key : String) : Reading (Option String) :=
  match opt v key with
  | some (.str s) => .ok (some s)
  | none => .ok none
  | _ => .error (key ++ " must be a string")

/-- An optional flag, `false` when absent. -/
def flag (v : Value) (key : String) : Reading Bool :=
  match opt v key with
  | some (.bool b) => .ok b
  | none => .ok false
  | _ => .error (key ++ " must be a boolean")

/-- A natural number below a bound. -/
def natBelow (bound : Nat) (key : String) (v : Value) : Reading Nat :=
  match v with
  | .num (.natural n) => if n < bound then .ok n else .error (key ++ " is out of range")
  | _ => .error (key ++ " must be an unsigned integer")

/-- A status code of sixteen bits. -/
def status (v : Value) (key : String) : Reading Nat :=
  match v.field? key with
  | some s => natBelow 65536 key s
  | none => .error (key ++ " required")

/-- A byte value: a string, `text`, `hex`, or `repeat` and `times`. -/
def bytesOf (v : Value) : Reading ByteArray :=
  match v with
  | .str s => .ok s.toUTF8
  | .obj _ =>
    match v.field? "text", v.field? "hex", v.field? "repeat" with
    | some (.str s), _, _ => .ok s.toUTF8
    | _, some (.str h), _ =>
      match Text.Hex.decode? h with
      | some b => .ok b
      | none => .error "hex must be hexadecimal digits"
    | _, _, some (.str s) =>
      match v.field? "times" with
      | some (.num (.natural n)) => .ok (String.join (List.replicate n s)).toUTF8
      | _ => .error "times must be an unsigned integer"
    | _, _, _ => .error "bytes must be a string, text, hex or repeat"
  | _ => .error "bytes must be a string or an object"

/-- An optional duration in milliseconds. -/
def millis (v : Value) (key : String) : Reading (Option Duration) :=
  match opt v key with
  | some n => do pure (some (Duration.ofMillis (← natBelow (Nat.pow 2 64) key n)))
  | none => .ok none

/-- The JSON form of a duration. -/
def durationJson (d : Duration) : Value :=
  .obj [("secs", .ofNat d.secs), ("nanos", .ofNat d.nanos)]

/-! ## The world -/

/-- The accounts file of the host: the system's own users, `root` first. -/
def passwdText : String :=
  String.join ([
    "root:x:0:0:root:/root:/bin/bash",
    "daemon:x:1:1:daemon:/usr/sbin:/usr/sbin/nologin",
    "bin:x:2:2:bin:/bin:/usr/sbin/nologin",
    "sys:x:3:3:sys:/dev:/usr/sbin/nologin",
    "sync:x:4:65534:sync:/bin:/bin/sync",
    "games:x:5:60:games:/usr/games:/usr/sbin/nologin",
    "man:x:6:12:man:/var/cache/man:/usr/sbin/nologin",
    "lp:x:7:7:lp:/var/spool/lpd:/usr/sbin/nologin",
    "mail:x:8:8:mail:/var/mail:/usr/sbin/nologin",
    "news:x:9:9:news:/var/spool/news:/usr/sbin/nologin",
    "uucp:x:10:10:uucp:/var/spool/uucp:/usr/sbin/nologin",
    "proxy:x:13:13:proxy:/bin:/usr/sbin/nologin",
    "www-data:x:33:33:www-data:/var/www:/usr/sbin/nologin",
    "backup:x:34:34:backup:/var/backups:/usr/sbin/nologin",
    "list:x:38:38:Mailing List Manager:/var/list:/usr/sbin/nologin",
    "irc:x:39:39:ircd:/run/ircd:/usr/sbin/nologin",
    "_apt:x:42:65534::/nonexistent:/usr/sbin/nologin",
    "nobody:x:65534:65534:nobody:/nonexistent:/usr/sbin/nologin"].map (· ++ "\n"))

/-- A file tree with the directories and files every request starts from: the temporary
directory, the system's directories, the character devices of `/dev`, the host name and
accounts files, and the programs under `/usr/bin`, which `/bin` links to. -/
def baseTree : FileTree :=
  let t : FileTree := {}
  let t := (t.mkdirAll [] tmpRoot 0o700).toOption.getD t
  let t := [("/etc", 0o755), ("/dev", 0o755), ("/proc", 0o555), ("/sys", 0o555), ("/root", 0o700),
      ("/home", 0o755), ("/var", 0o755), ("/run", 0o755), ("/usr/local/bin", 0o755),
      ("/usr/sbin", 0o755)].foldl (fun t (d, m) => (t.mkdirAll [] d m).toOption.getD t) t
  let t := [Device.null, .zero, .full, .random, .urandom, .tty].foldl
    (fun t d => t.insert ["dev", d.name] (.device d)) t
  let t := (t.writeFile [] "/etc/hostname" "<hostname>\n".toUTF8 0o644).toOption.getD t
  let t := (t.writeFile [] "/etc/passwd" passwdText.toUTF8 0o644).toOption.getD t
  let t := (t.mkdirAll [] "/usr/bin" 0o755).toOption.getD t
  let t := (t.symlink [] "usr/bin" "/bin").toOption.getD t
  Shell.hostPrograms.foldl (fun t name =>
    (t.writeFile [] ("/usr/bin/" ++ name) (ByteArray.mk Shell.binaryMagic.toArray) 0o755).toOption.getD t) t

/-- The world a request starts in. -/
def freshWorld : World := { files := baseTree }

/-- Apply the environment changes `{"username": ..., "password": ...}`: a string sets the
variable, `null` unsets it, an absent key leaves it. -/
def applyEnv (spec : Value) (w : World) : Reading World := do
  let change (var key : String) (env : List (String × String)) : Reading (List (String × String)) :=
    match spec.field? key with
    | some (.str s) => .ok ((env.filter (·.1 != var)) ++ [(var, s)])
    | some .null => .ok (env.filter (·.1 != var))
    | none => .ok env
    | _ => .error ("env " ++ key ++ " must be a string or null")
  let env ← change usernameVar "username" w.env
  let env ← change passwordVar "password" env
  pure { w with env }

/-- One preparation of the temporary directory. -/
def plantOne (t : FileTree) (spec : Value) : Reading (FileTree × Option (String × ByteArray)) := do
  let p ← reqString spec "path"
  let full := underTmp p
  let parent := (Path.parent? full).getD tmpRoot
  if (← flag spec "remove") then
    let t := match t.lstat [] full with
      | .ok (.dir _) => (t.removeDirAll [] full).toOption.getD t
      | .ok _ => (t.removeFile [] full).toOption.getD t
      | .error _ => t
    return (t, none)
  if (← flag spec "dir") then
    return ((t.mkdirAll [] full 0o755).toOption.getD t, none)
  let t := (t.mkdirAll [] parent 0o755).toOption.getD t
  match opt spec "symlink" with
  | some (.str target) => return ((t.symlink [] (tmpify target) full).toOption.getD t, none)
  | some _ => throw "symlink must be a string"
  | none => pure ()
  match opt spec "content" with
  | some c =>
    let bytes ← bytesOf c
    let mode := if (← flag spec "exec") then 0o755 else 0o644
    let t := match t.writeFile [] full bytes mode with
      | .ok t => t
      | .error _ => t
    pure (t, some (p, bytes))
  | none => throw "plant needs content, dir, symlink or remove"

/-- Apply a list of preparations; also answers what each planted file holds. -/
def plantAll (specs : List Value) (t : FileTree) : Reading (FileTree × List (String × ByteArray)) :=
  specs.foldlM (fun (t, planted) spec => do
    let (t, p) ← plantOne t spec
    pure (t, match p with
      | some entry => (planted.filter (·.1 != entry.1)) ++ [entry]
      | none => planted)) (t, [])

/-- The preparations of a request or step, none when absent. -/
def plantsOf (v : Value) : Reading (List Value) :=
  match opt v "plant" with
  | some (.arr specs) => .ok specs
  | none => .ok []
  | _ => .error "plant must be a list"

/-! ## Settings -/

/-- Settings from the request's `config`, with `<tmp>` replaced and the state, cache and schedule
paths under `T` unless given. -/
def configOf (v : Value) : Reading AgentConfig := do
  let doc := match opt v "config" with
    | some d => tmpifyValue d
    | none => .obj []
  let fields ← match doc with
    | .obj fs => pure fs
    | _ => throw "config must be an object"
  let withDefault (key val : String) (fs : List (String × Value)) :=
    if fs.any (·.1 == key) then fs else fs ++ [(key, .str val)]
  let fields := withDefault "state_dir" (underTmp "state") fields
  let fields := withDefault "cache_dir" (underTmp "cache") fields
  let fields := withDefault "schedule_file" (underTmp "cron.daily/hostwatch") fields
  (AgentConfig.ofJson? (.obj fields)).mapError ("config: " ++ ·)

/-! ## The scripted service -/

/-- A scripted failure. -/
def failureOf (v : Value) : Reading Failure :=
  match v with
  | .str "Timeout" => .ok .timeout
  | .str "PayloadTooLarge" => .ok .payloadTooLarge
  | .str "Unregistered" => .ok .unregistered
  | .str "InvalidContentType" => .ok .invalidContentType
  | .obj _ =>
    match v.field? "Transport", v.field? "Status" with
    | some (.str m), _ => .ok (.transport m)
    | _, some s => do pure (.status (← natBelow 65536 "Status" s))
    | _, _ => .error "unknown failure"
  | _ => .error "unknown failure"

/-- A scripted flag: a boolean or a failure. -/
def scriptedFlag (v : Value) : Reading (Scripted Bool) :=
  match v with
  | .bool b => .ok (.ok b)
  | .obj _ =>
    match v.field? "fail" with
    | some f => do pure (.error (← failureOf f))
    | none => .error "expected a boolean or a failure"
  | _ => .error "expected a boolean or a failure"

/-- A scripted upload answer. -/
def scriptedUpload (v : Value) : Reading (Scripted UploadResponse) :=
  match v.field? "fail" with
  | some f => do pure (.error (← failureOf f))
  | none => do
    let s ← status v "status"
    let body ← match v.field? "body" with
      | some (.str b) => pure b
      | none => pure ""
      | _ => throw "body must be a string"
    pure (.ok ⟨s, body⟩)

/-- Scripted rules. -/
def scriptedRules (v : Value) : Reading (Scripted CollectionRules) :=
  match v.field? "fail" with
  | some f => do pure (.error (← failureOf f))
  | none => do
    let version ← optString v "version"
    pure (.ok { version, document := (v.field? "document").getD .null })

/-- Apply a script to the scripted service. -/
def applyScript (spec : Value) (s : ScriptedService) : Reading ScriptedService := do
  let s ← match opt spec "registered" with
    | some v => do pure { s with registered := ← scriptedFlag v }
    | none => pure s
  let s ← match opt spec "register_fail" with
    | some f => do pure { s with registerResult := .error (← failureOf f) }
    | none => pure s
  let s ← match opt spec "unregister" with
    | some v => do pure { s with unregisterResult := ← scriptedFlag v }
    | none => pure s
  let s ← match opt spec "uploads" with
    | some (.arr rs) => do pure { s with uploads := s.uploads ++ (← rs.mapM scriptedUpload) }
    | some _ => throw "uploads must be a list"
    | none => pure s
  let s ← match opt spec "default_upload" with
    | some r => do pure { s with defaultUpload := ← scriptedUpload r }
    | none => pure s
  match opt spec "rules" with
  | some r => do pure { s with rules := ← scriptedRules r }
  | none => pure s

end HostAgent.Scenario
