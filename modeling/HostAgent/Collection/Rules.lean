import HostAgent.Json.Value

/-!
# `HostAgent.Collection.Rules` — what a collection run is told

* `CollectionRules` — an opaque rule document and the version it names, if its `version` field
  is a string.
* `RemovalConfig` — the operator's exclusions: files, commands, patterns and keywords.
* `ExclusionReport` — how many exclusions of each kind there are, attached to the archive.
* `BranchInfo` — the remote branch and leaf this host reports under, `-1` for none.

Each has its JSON form, fields in declaration order; `RemovalConfig.ofJson?` and
`BranchInfo.ofJson?` read them back (absent lists are empty, branch fields are required).
-/

namespace HostAgent.Collection

open HostAgent.Json

/-- A rule document and its version. -/
structure CollectionRules where
  version : Option String := none
  document : Value := .null
  deriving Inhabited

/-- The rules that a document carries: its `version` field names the version when it is a
string. -/
def CollectionRules.ofDocument (doc : Value) : CollectionRules :=
  { version := (doc.field? "version").bind Value.asString?, document := doc }

/-- The JSON form of rules. -/
def CollectionRules.toJson (r : CollectionRules) : Value :=
  .obj [("version", .ofOption r.version), ("document", r.document)]

/-- Counts of the operator's exclusions. -/
structure ExclusionReport where
  obfuscate : Bool := false
  file : Nat := 0
  command : Nat := 0
  patterns : Nat := 0
  keywords : Nat := 0
  deriving Repr, DecidableEq, Inhabited

/-- The JSON form of a report. -/
def ExclusionReport.toJson (r : ExclusionReport) : Value :=
  .obj [("obfuscate", .bool r.obfuscate), ("file", .ofNat r.file), ("command", .ofNat r.command),
    ("patterns", .ofNat r.patterns), ("keywords", .ofNat r.keywords)]

/-- The operator's exclusions. -/
structure RemovalConfig where
  files : List String := []
  commands : List String := []
  patterns : List String := []
  keywords : List String := []
  deriving Repr, DecidableEq, Inhabited

namespace RemovalConfig

/-- Whether nothing is excluded. -/
def isEmpty (r : RemovalConfig) : Bool :=
  r.files.isEmpty && r.commands.isEmpty && r.patterns.isEmpty && r.keywords.isEmpty

/-- The counts of each kind of exclusion; obfuscation is never asked for. -/
def report (r : RemovalConfig) : ExclusionReport :=
  { obfuscate := false, file := r.files.length, command := r.commands.length,
    patterns := r.patterns.length, keywords := r.keywords.length }

/-- The JSON form. -/
def toJson (r : RemovalConfig) : Value :=
  .obj [("files", .ofStrings r.files), ("commands", .ofStrings r.commands),
    ("patterns", .ofStrings r.patterns), ("keywords", .ofStrings r.keywords)]

/-- A list of strings, or the reason it is not one. -/
def stringsOf (key : String) (v : Value) : Except String (List String) :=
  match v with
  | .arr items =>
    items.mapM fun
      | .str s => .ok s
      | _ => .error ("invalid type for " ++ key ++ ": expected a string")
  | _ => .error ("invalid type for " ++ key ++ ": expected a sequence")

/-- A field holding a list of strings; absent means empty. -/
def listField (doc : Value) (key : String) : Except String (List String) :=
  match doc.field? key with
  | some v => stringsOf key v
  | none => .ok []

/-- Read exclusions from a document; fields not named here are ignored. -/
def ofJson? (doc : Value) : Except String RemovalConfig :=
  match doc with
  | .obj _ => do
    let files ← listField doc "files"
    let commands ← listField doc "commands"
    let patterns ← listField doc "patterns"
    let keywords ← listField doc "keywords"
    pure { files, commands, patterns, keywords }
  | _ => .error "invalid type: expected a table of exclusions"

theorem report_file (r : RemovalConfig) : r.report.file = r.files.length := rfl

end RemovalConfig

/-- The remote branch and leaf of this host. -/
structure BranchInfo where
  remoteBranch : Int := -1
  remoteLeaf : Int := -1
  deriving Repr, DecidableEq, Inhabited

namespace BranchInfo

/-- The JSON form. -/
def toJson (b : BranchInfo) : Value :=
  .obj [("remote_branch", .ofInt b.remoteBranch), ("remote_leaf", .ofInt b.remoteLeaf)]

/-- A signed 64-bit integer field. -/
def intField (doc : Value) (key : String) : Except String Int :=
  match doc.field? key with
  | some v => match v.asInt? with
    | some i => if i < 9223372036854775808 then .ok i else .error ("invalid value for " ++ key ++ ": expected i64")
    | none => .error ("invalid type for " ++ key ++ ": expected i64")
  | none => .error ("missing field " ++ key)

/-- Read branch information; both fields are required. -/
def ofJson? (doc : Value) : Except String BranchInfo :=
  match doc with
  | .obj _ => do
    let remoteBranch ← intField doc "remote_branch"
    let remoteLeaf ← intField doc "remote_leaf"
    pure { remoteBranch, remoteLeaf }
  | _ => .error "invalid type: expected struct BranchInfo"

end BranchInfo

end HostAgent.Collection
