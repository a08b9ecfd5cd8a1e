import HostAgent.Shell.Awk.Run

/-!
# `HostAgent.Shell.Utility.Awk` — the `awk` command

`awk [-F fs] [-v name=value]... [-f progfile | 'program'] [operand]...` runs a program
(`HostAgent.Shell.Awk`) over its operands: files, `-` for the standard input, and assignments
`name=value` made when the main input reaches them.

The run: the `-v` assignments, the `BEGIN` actions, then, when the program has other items, every
record of the main input through the items in order (`next` skips to the next record, `nextfile`
to the next file), and the `END` actions; outputs still open are closed last. `exit` ends the run
with its status after the `END` actions (at once when it comes from one). A syntax error is
reported with its line and gives status 2, and so does a run-time error.
-/

namespace HostAgent.Shell

namespace Awk

/-- Run an item's action, or print the record when it has none. -/
def runAction (fuel : Nat) (act : Option (List Stmt)) : AwkM Unit := do
  match act with
  | none =>
    let r ← get
    writeTo none (Octets.toByteArray (r.record ++ r.special "ORS"))
  | some ss => discard (runBlock fuel ss)

/-- Mark a range pattern active or not. -/
def setRange (idx : Nat) (active : Bool) : AwkM Unit :=
  modify fun r =>
    let ranges := if r.ranges.size ≤ idx then r.ranges ++ Array.replicate (idx + 1 - r.ranges.size) false
      else r.ranges
    { r with ranges := ranges.set! idx active }

/-- Run the items of the main part for the record. -/
def runItems (fuel : Nat) : List (Nat × Item) → AwkM Unit
  | [] => pure ()
  | (idx, item) :: more => do
    match item.pattern with
    | .begin | .finish => pure ()
    | .always => runAction fuel item.action
    | .test e => if (← eval fuel e).truth then runAction fuel item.action
    | .range a b =>
      if (← get).ranges.getD idx false then
        if (← eval fuel b).truth then setRange idx false
        runAction fuel item.action
      else if (← eval fuel a).truth then
        if !(← eval fuel b).truth then setRange idx true
        runAction fuel item.action
    runItems fuel more

/-- Read the records of the main input and run the items for each. -/
def recordLoop (fuel : Nat) (items : List (Nat × Item)) : Nat → AwkM Unit
  | 0 => pure ()
  | n + 1 => do
    match ← nextMainRecord (8 * fuel + 8) with
    | none => pure ()
    | some record =>
      setRecord record
      tryCatch (runItems fuel items) fun
        | .next => pure ()
        | .nextFile => modify fun r => { r with current := none }
        | other => throw other
      recordLoop fuel items n

/-- Run the actions of some items in order. -/
def runActions (fuel : Nat) : List (Nat × Item) → AwkM Unit
  | [] => pure ()
  | (_, item) :: more => do
    runAction fuel item.action
    runActions fuel more

/-- Run a program: `BEGIN`, the records, `END`, then close the outputs. -/
def runProgram (fuel : Nat) : AwkM Unit := do
  let p := (← get).program
  let items := p.items.zipIdx.map fun (it, i) => (i, it)
  let isBegin (x : Nat × Item) : Bool := x.2.pattern matches .begin
  let isEnd (x : Nat × Item) : Bool := x.2.pattern matches .finish
  let begins := items.filter isBegin
  let ends := items.filter isEnd
  let mains := items.filter fun x => !isBegin x && !isEnd x
  let exitOnly (act : AwkM Unit) : AwkM Bool :=
    tryCatch (do act; pure false) fun
      | .exit => pure true
      | .next | .nextFile => fault "improper use of next"
      | other => throw other
  let exited ← exitOnly (runActions fuel begins)
  if !exited && !(mains.isEmpty && ends.isEmpty) then
    discard (exitOnly (recordLoop fuel mains (Nat.pow 10 9)))
  discard (exitOnly (runActions fuel ends))
  closeAll (fuel + 1)

/-- The globals a run starts with. -/
def initialGlobals (fs : String) : List (String × Cell) :=
  [("FS", .scalar (.str fs)), ("OFS", .scalar (.str " ")), ("ORS", .scalar (.str "\n")),
    ("RS", .scalar (.str "\n")), ("SUBSEP", .scalar (.str (String.singleton (Char.ofNat 28)))),
    ("CONVFMT", .scalar (.str "%.6g")), ("OFMT", .scalar (.str "%.6g")),
    ("NR", .scalar (.num 0)), ("FNR", .scalar (.num 0)), ("FILENAME", .scalar (.str "")),
    ("RSTART", .scalar (.num 0)), ("RLENGTH", .scalar (.num (-1)))]

end Awk

namespace Utility

open Awk

/-- What the command line of `awk` says: the field separator, the assignments, the program
files, and the rest. -/
structure AwkOptions where
  fs : Option String := none
  assigns : List String := []
  progFiles : List String := []
  rest : List String := []

/-- Read the options of `awk`, up to the first operand or `--`. -/
def awkOptions : Nat → List String → AwkOptions → Except String AwkOptions
  | 0, rest, o => .ok { o with rest }
  | _, [], o => .ok o
  | fuel + 1, a :: more, o =>
    if a == "--" then .ok { o with rest := more }
    else if a == "-" || !a.startsWith "-" then .ok { o with rest := a :: more }
    else
      let letter := a.toList.drop 1 |>.headD ' '
      let attached := String.ofList (a.toList.drop 2)
      let withArg (k : String → AwkOptions) : Except String AwkOptions :=
        if !attached.isEmpty then awkOptions fuel more (k attached)
        else match more with
          | v :: after => awkOptions fuel after (k v)
          | [] => .error ("option requires an argument -- " ++ String.singleton letter)
      match letter with
      | 'F' => withArg fun v => { o with fs := some v }
      | 'v' => withArg fun v => { o with assigns := o.assigns ++ [v] }
      | 'f' => withArg fun v => { o with progFiles := o.progFiles ++ [v] }
      | 'W' => withArg fun _ => o
      | _ => .error ("not an option " ++ a)

/-- `awk`: run a program over the operands. -/
def awk (host : Host) (inv : Invocation) : UtilM := do
  let name := (inv.argv0.splitOn "/").getLastD inv.argv0
  let say (m : String) : ShellM Unit := State.print 2 (name ++ ": " ++ m ++ "\n")
  match awkOptions (inv.args.length + 1) inv.args {} with
  | .error e =>
    say e
    pure 2
  | .ok o =>
    let (text, operands) ← (do
      if o.progFiles.isEmpty then
        match o.rest with
        | t :: ops => pure (some t, ops)
        | [] => pure (none, [])
      else
        let mut texts : List String := []
        for f in o.progFiles do
          match ← readSource f with
          | .ok bs => texts := texts ++ [Octets.ofBytes bs]
          | .error _ =>
            say ("couldn't open file " ++ f)
            return (none, [])
        pure (some ("\n".intercalate texts), o.rest))
    match text with
    | none =>
      if o.progFiles.isEmpty then
        State.print 2 ("usage: " ++ name ++ " [-F value] [-v var=value] [--] 'program text' [file ...]\n")
      pure 2
    | some text =>
      match parseProgram text with
      | .error (m, line) =>
        say ("line " ++ toString line ++ ": " ++ m)
        pure 2
      | .ok program =>
        let fs := (o.fs.map assignedText).getD " "
        let start : Runtime := { program, host, globals := initialGlobals fs }
        let setup : AwkM Unit := do
          let argv ← arrayOf "ARGV"
          setElement argv "0" (.str name)
          for (a, i) in operands.zipIdx do
            setElement argv (toString (i + 1)) (.strnum a)
          setVar "ARGC" (.num (Float.ofNat (operands.length + 1)))
          let envId ← arrayOf "ENVIRON"
          for (n, v) in inv.env do
            setElement envId n (.strnum v)
          for a in o.assigns do
            match assignment? a with
            | some (n, v) => setVar n (.strnum (assignedText v))
            | none => fault ("improper assignment: -v " ++ a)
        let fuel := Nat.pow 10 8
        let (result, r) ← ((do setup; runProgram fuel) : AwkM Unit).run.run start
        match result with
        | .ok () => pure r.exitStatus
        | .error .exit => pure r.exitStatus
        | .error (.fault m) =>
          say m
          pure 2
        | .error .killed => pure 137
        | .error _ => pure r.exitStatus

end Utility

end HostAgent.Shell
