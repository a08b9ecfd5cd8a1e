/-!
# `HostAgent.Host.Path` — paths as text

A path is the text the agent was given, and it is printed back unchanged. This module reads its
structure the way the host's path library does:

* a path is absolute when it starts with `/`;
* its components are the pieces between slashes, with empty pieces and `.` dropped (a leading
  `.` of a relative path is kept as the current directory), and `..` read as the parent;
* `join base p` is `p` when `p` is absolute and `p` placed below `base` otherwise;
* `parent` removes the last component, and has nothing to remove from `/` or from the empty path;
* `fileName` is the last component when it is a name.
-/

namespace HostAgent.Host

/-- One component of a path. -/
inductive Component where
  /-- The leading `/` of an absolute path. -/
  | root
  /-- A leading `.` of a relative path. -/
  | current
  /-- `..`. -/
  | up
  /-- Any other piece. -/
  | name (text : String)
  deriving Repr, DecidableEq

namespace Path

/-- The pieces between slashes, without empty ones. -/
def pieces (p : String) : List String :=
  ((p.toList.splitOn '/').filter (fun cs => !cs.isEmpty)).map String.ofList

/-- Whether a path starts at the root. -/
def isAbsolute (p : String) : Bool := p.startsWith "/"

/-- The components of a path. -/
def components (p : String) : List Component :=
  let body := (pieces p).filter (· != ".") |>.map fun s => if s == ".." then Component.up else .name s
  if isAbsolute p then .root :: body
  else if p == "." || p.startsWith "./" then .current :: body
  else body

/-- The text of a list of components. -/
def ofComponents (cs : List Component) : String :=
  let text : Component → String
    | .root => ""
    | .current => "."
    | .up => ".."
    | .name s => s
  match cs with
  | [.root] => "/"
  | .root :: rest => "/" ++ "/".intercalate (rest.map text)
  | _ => "/".intercalate (cs.map text)

/-- `p` below `base`, or `p` itself when it is absolute. -/
def join (base p : String) : String :=
  if isAbsolute p then p
  else if base.isEmpty then p
  else if base.endsWith "/" then base ++ p
  else base ++ "/" ++ p

/-- The path without its last component; `none` for `/` and the empty path. -/
def parent? (p : String) : Option String :=
  match (components p).reverse with
  | [] => none
  | [.root] => none
  | _ :: before => some (ofComponents before.reverse)

/-- The last component, when it is a name. -/
def fileName? (p : String) : Option String :=
  match (components p).getLast? with
  | some (.name s) => some s
  | _ => none

/-- The directory part of a path as the `dirname` utility gives it: trailing slashes and the last
piece removed, `.` when no slash is left and `/` when only slashes are. -/
def dirname (p : String) : String :=
  let cs := p.toList
  let trimmed := (cs.reverse.dropWhile (· == '/')).reverse
  if trimmed.isEmpty then (if cs.isEmpty then "." else "/")
  else if !trimmed.contains '/' then "."
  else
    let withoutLast := (trimmed.reverse.dropWhile (· != '/')).reverse
    let dir := (withoutLast.reverse.dropWhile (· == '/')).reverse
    if dir.isEmpty then "/" else String.ofList dir

end Path

end HostAgent.Host
