import HostAgent.Fault

/-!
# `HostAgent.Cli.Report` — how the program reports the error it ends with

A report is a message with the chain of failures under it, outermost first: a fault's message
over the failure underneath it (`Fault.source`), and a context line (`Report.context`) over a
whole report. `Report.render` writes it the way the program prints it before exiting:

```
Error: <message>

Caused by:
    <the only cause>
```

and when there are several causes, each is numbered from zero, the numbers right-aligned in five
columns: `    0: <cause>`. The lines of a cause that spans several lines are indented like it.
-/

namespace HostAgent.Cli

/-- An error with the failures under it, outermost first. -/
structure Report where
  message : String
  causes : List String := []
  deriving DecidableEq, Repr

namespace Report

/-- The report of a fault: its message over the failure underneath. -/
def ofFault (f : Fault) : Report := { message := f.message, causes := f.source.toList }

/-- A report of a file system error, which has nothing underneath. -/
def ofIo (e : Host.IoError) : Report := { message := e.message }

/-- A context line over a report. -/
def context (line : String) (r : Report) : Report :=
  { message := line, causes := r.message :: r.causes }

/-- A cause's text with its first line after `head` and the other lines after `indent`. -/
def indented (head indent text : String) : String :=
  match text.splitOn "\n" with
  | [] => head
  | first :: rest => head ++ first ++ String.join (rest.map fun l => "\n" ++ indent ++ l)

/-- A number right-aligned in five columns. -/
def rightAligned (n : Nat) : String :=
  let s := toString n
  String.ofList (List.replicate (5 - s.length) ' ') ++ s

/-- The report as printed, ending with a line break. -/
def render (r : Report) : String :=
  let causes := match r.causes with
    | [] => ""
    | [c] => "\n\nCaused by:\n" ++ indented "    " "    " c
    | cs => "\n\nCaused by:" ++ String.join (cs.zipIdx.map fun (c, n) =>
        "\n" ++ indented (rightAligned n ++ ": ") "       " c)
  "Error: " ++ r.message ++ causes ++ "\n"

end Report

end HostAgent.Cli
