import HostAgent.Collection.Rules

/-!
# `HostAgent.Collection.Request` — what a collector is asked, and the record of asking

A collection request carries the rules (or none), the exclusions, the branch information and the
exclusion report. Its JSON form lists them in that order under `rules`, `removal`, `branch_info`
and `blacklist_report`; it is what a collector program reads on its input.

A collector call is one request to run or to finish a collection, as a collector that keeps a
record of its calls stores it.
-/

namespace HostAgent.Collection

open HostAgent.Json

/-- What one collection run is asked to do. -/
structure CollectionRequest where
  rules : Option CollectionRules
  removal : RemovalConfig
  branch : BranchInfo
  report : ExclusionReport
  deriving Inhabited

/-- The JSON form of optional rules. -/
def rulesJson : Option CollectionRules → Value
  | some r => r.toJson
  | none => .null

/-- The JSON form of a request, fields in order. -/
def CollectionRequest.toJson (r : CollectionRequest) : Value :=
  .obj [("rules", rulesJson r.rules), ("removal", r.removal.toJson),
    ("branch_info", r.branch.toJson), ("blacklist_report", r.report.toJson)]

/-- One call made to a collector. -/
inductive CollectorCall where
  /-- A run with its request. -/
  | run (request : CollectionRequest)
  /-- The end of a run, with the rules and exclusions it was given. -/
  | finalize (rules : Option CollectionRules) (removal : RemovalConfig)
  deriving Inhabited

end HostAgent.Collection
