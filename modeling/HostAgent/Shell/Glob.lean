import HostAgent.Shell.Pattern
import HostAgent.Shell.Octets
import HostAgent.Host.FileTree

/-!
# `HostAgent.Shell.Glob` — pathname expansion

A field with an unquoted `*`, `?` or `[` is a pattern for paths. It is cut at its slashes into
components; a component without those characters names one entry as it stands, and one with
them matches every entry of the directory reached so far, `.` and `..` included (a name
starting with `.` only when the component starts with a `.`); a pattern that ends in a slash
only keeps the paths that lead to directories. The field expands to the paths that exist,
sorted by their bytes; when none does, it stays as it is. Paths are octet text
(`HostAgent.Shell.Octets`), the file tree's names their UTF-8 bytes.
-/

namespace HostAgent.Shell

open HostAgent.Host

namespace Glob

/-- Whether a pattern has an unquoted `*`, `?` or `[`. -/
def hasMagic (cs : List (Char × Bool)) : Bool :=
  cs.any fun (c, quoted) => !quoted && (c == '*' || c == '?' || c == '[')

/-- The components of a pattern, cut at its slashes. -/
def components (cs : List (Char × Bool)) : List (List (Char × Bool)) :=
  let rec go : List (Char × Bool) → List (Char × Bool) → List (List (Char × Bool))
    | [], cur => [cur.reverse]
    | (c, q) :: rest, cur => if c == '/' then cur.reverse :: go rest [] else go rest ((c, q) :: cur)
  go cs []

/-- A path with one more component. -/
def child (base name : String) : String :=
  if base.isEmpty then name else if base.endsWith "/" then base ++ name else base ++ "/" ++ name

/-- Whether a component matches an entry name: a name starting with `.` needs a component
starting with `.`. -/
def matchesName (comp : List (Char × Bool)) (name : String) : Bool :=
  let dotOk := !name.startsWith "." || (comp.head?.map (·.1)) == some '.'
  dotOk && (Pattern.compile comp).accepts name.toList

/-- The paths one more component reaches from each path so far. -/
def step (t : FileTree) (cwd : Location) (paths : List String) (comp : List (Char × Bool)) :
    List String :=
  paths.flatMap fun base =>
    if comp.isEmpty then
      if t.isDir cwd (Octets.toUnicode base) then [base ++ "/"] else []
    else if !hasMagic comp then
      let p := child base (String.ofList (comp.map (·.1)))
      match t.lstat cwd (Octets.toUnicode p) with
      | .ok _ => [p]
      | .error _ => []
    else
      match t.readDir cwd (if base.isEmpty then "." else Octets.toUnicode base) with
      | .ok names =>
        -- the directory listing also has `.` and `..`, which only a leading `.` can match
        ((".." :: "." :: names.map Octets.ofUnicode).filter (matchesName comp)).map (child base)
      | .error _ => []

end Glob

/-- The paths a field names as a pattern, sorted; the field itself when it is not a pattern or
names nothing. Each character is marked `true` when it was quoted. -/
def globField (t : FileTree) (cwd : Location) (cs : List (Char × Bool)) : List String :=
  let text := String.ofList (cs.map (·.1))
  if !Glob.hasMagic cs then [text]
  else
    let comps := Glob.components cs
    let (start, comps) := match comps with
      | [] :: rest => ("/", rest)
      | _ => ("", comps)
    match comps.foldl (Glob.step t cwd) [start] with
    | [] => [text]
    | found => found.mergeSort fun a b => decide (a ≤ b)

end HostAgent.Shell
