import HostAgent.Shell.Awk.Parse
import HostAgent.Shell.Awk.Value
import HostAgent.Shell.Regex
import HostAgent.Shell.Utility.Core

/-!
# `HostAgent.Shell.Awk.Run` — running awk programs

The state of a run (`Runtime`) holds the variables (global ones, and the frames of the function
calls under way), the arrays, the record and its fields, where the main input is, the open
inputs and outputs, and compiled regular expressions.

* The record is split into fields when a field or `NF` is first used after it changed
  (`ensureSplit`): at runs of blanks when `FS` is a blank, at each occurrence of a single other
  character, at each match of `FS` as a regular expression otherwise. Assigning a field or `NF`
  rebuilds the record from the fields joined by `OFS`.
* The main input is the operands left in `ARGV` when a record is needed: a `name=value` operand
  is an assignment made then, `-` is the standard input, and with no file operand at all the
  standard input is read. Records end at `RS`: a newline by default, a blank line when `RS` is
  empty, a match of `RS` as a regular expression when it is longer than one character.
* `BEGIN` actions run first; then, when the program has other items, each record goes through the
  patterns in order; `END` actions run last, also after `exit`, unless `exit` came from one of
  them. Outputs to commands run when they are closed or at the end.
* `for (key in array)` visits the keys in byte order.

Statements and expressions take a fuel that bounds their nesting and loops; every statement also
spends a step of the shell's budget, so a program that does not end is stopped like any other.
-/

namespace HostAgent.Shell

namespace Awk

open HostAgent.Host

/-- A variable: a scalar value or an array, by its number. -/
inductive Cell where
  | scalar (v : Value)
  | array (id : Nat)
  deriving Inhabited

/-- An open output: a file, a file appended to, or the input of a command, which collects what
is written to it until it is closed. -/
structure Output where
  name : String
  kind : Redirect
  pending : ByteArray := .empty

/-- How a program reaches the shell: run a command line with some input (`none`: the program's
own), capturing its output or not; its status and what it wrote, when captured. -/
structure Host where
  shell : String → Option (List UInt8) → Bool → ShellM (Nat × List UInt8)

/-- Why evaluation stopped early. -/
inductive Stop where
  | next
  | nextFile
  | exit
  /-- A run-time error, with its message. -/
  | fault (message : String)
  /-- The budget ran out. -/
  | killed
  deriving Inhabited

/-- How a statement ended. -/
inductive Completion where
  | normal
  | brk
  | cont
  | ret (v : Value)
  deriving Inhabited

/-- The state of a run. -/
structure Runtime where
  program : Program
  host : Host
  globals : List (String × Cell)
  frames : List (List (String × Cell)) := []
  arrays : Array (List (String × Value)) := #[]
  record : String := ""
  fields : Array String := #[]
  split : Bool := true
  nf : Nat := 0
  ranges : Array Bool := #[]
  mainArg : Nat := 1
  current : Option (List Char) := none
  usedFile : Bool := false
  inputs : List (String × List Char) := []
  outputs : List Output := []
  regexes : List (String × Regex) := []
  exitStatus : Nat := 0
  seed : Nat := 0
  prevSeed : Nat := 0

/-- The computations of a run. -/
abbrev AwkM := ExceptT Stop (StateT Runtime ShellM)

/-- Stop with a run-time error. -/
def fault {α : Type} (message : String) : AwkM α := throw (.fault message)

/-! ## Variables and arrays -/

/-- The cell a name stands for: a local of the innermost call, or a global. -/
def cellOf? (r : Runtime) (name : String) : Option Cell :=
  match r.frames with
  | frame :: _ =>
    match frame.find? (·.1 == name) with
    | some (_, c) => some c
    | none => (r.globals.find? (·.1 == name)).map (·.2)
  | [] => (r.globals.find? (·.1 == name)).map (·.2)

/-- Bind a name, as a local when the innermost call has it, as a global otherwise. -/
def bindCell (name : String) (c : Cell) : AwkM Unit :=
  modify fun r =>
    match r.frames with
    | frame :: outer =>
      if frame.any (·.1 == name) then
        { r with frames := (frame.map fun (n, old) => if n == name then (n, c) else (n, old)) :: outer }
      else
        { r with globals := (name, c) :: r.globals.filter (·.1 != name) }
    | [] => { r with globals := (name, c) :: r.globals.filter (·.1 != name) }

/-- The text of a global set by the program or the run (`FS`, `OFS`, ...). -/
def Runtime.special (r : Runtime) (name : String) : String :=
  match r.globals.find? (·.1 == name) with
  | some (_, .scalar v) =>
    let convfmt := match r.globals.find? (·.1 == "CONVFMT") with
      | some (_, .scalar (.str c)) => c
      | _ => "%.6g"
    v.text convfmt
  | _ => ""

/-- The text of `CONVFMT`. -/
def convfmt : AwkM String := do pure ((← get).special "CONVFMT")

/-- A value as text. -/
def textOf (v : Value) : AwkM String := do pure (v.text (← convfmt))

/-- A new empty array. -/
def newArray : AwkM Nat := do
  let r ← get
  set { r with arrays := r.arrays.push [] }
  pure r.arrays.size

/-- The array a name stands for, made when the name is not set. -/
def arrayOf (name : String) : AwkM Nat := do
  match cellOf? (← get) name with
  | some (.array id) => pure id
  | some (.scalar .uninit) | none =>
    let id ← newArray
    bindCell name (.array id)
    pure id
  | some (.scalar _) => fault ("can't use scalar " ++ name ++ " as array")

/-- The elements of an array. -/
def elements (id : Nat) : AwkM (List (String × Value)) := do
  pure ((← get).arrays.getD id [])

/-- Set an element of an array. -/
def setElement (id : Nat) (key : String) (v : Value) : AwkM Unit :=
  modify fun r =>
    let old := r.arrays.getD id []
    let new := if old.any (·.1 == key) then old.map (fun (k, x) => if k == key then (k, v) else (k, x))
      else old ++ [(key, v)]
    { r with arrays := r.arrays.set! id new }

/-- Remove an element of an array, or (`none`) all of them. -/
def removeElement (id : Nat) (key : Option String) : AwkM Unit :=
  modify fun r =>
    let new := match key with
      | some k => (r.arrays.getD id []).filter (·.1 != k)
      | none => []
    { r with arrays := r.arrays.set! id new }

/-! ## Records and fields -/

/-- The characters that separate fields when `FS` is a blank. -/
def isFieldBlank (c : Char) : Bool := c == ' ' || c == '\t' || c == '\n'

/-- A compiled regular expression of the program, kept for the next use. -/
def regexOf (source : String) : AwkM Regex := do
  let r ← get
  match r.regexes.find? (·.1 == source) with
  | some (_, re) => pure re
  | none =>
    match Regex.compile { extended := true, cEscapes := true, bracketEscapes := true } source with
    | .ok re =>
      set { r with regexes := (source, re) :: r.regexes.take 63 }
      pure re
    | .error e => fault ("regular expression compile failed (" ++ e ++ ")\n" ++ source)

/-- Cut a text at every match of a regular expression; a match of nothing does not cut. -/
def splitAt (re : Regex) (text : String) : List String :=
  let cs := text.toList.toArray
  let rec go : Nat → Nat → Nat → List String → List String
    | 0, from_, _, acc => (acc.reverse ++ [String.ofList (cs.extract from_ cs.size).toList])
    | fuel + 1, from_, pos, acc =>
      match re.search cs pos with
      | some (a, b, _) =>
        if b == a then
          if a < cs.size then go fuel from_ (a + 1) acc
          else acc.reverse ++ [String.ofList (cs.extract from_ cs.size).toList]
        else go fuel b b (String.ofList (cs.extract from_ a).toList :: acc)
      | none => acc.reverse ++ [String.ofList (cs.extract from_ cs.size).toList]
  go (cs.size + 2) 0 0 []

/-- The fields of a text under a field separator. -/
def splitFields (text : String) (fs : String) : AwkM (List String) := do
  if text.isEmpty then return []
  if fs == " " then
    let words := (text.toList.splitBy (fun a b => isFieldBlank a == isFieldBlank b)).filter
      fun w => !(w.all isFieldBlank)
    return words.map String.ofList
  match fs.toList with
  | [] => pure (text.toList.map String.singleton)
  | [c] =>
    if c == '\\' then pure ((text.splitOn "\\"))
    else pure (text.splitOn (String.singleton c))
  | _ =>
    let re ← regexOf fs
    pure (splitAt re text)

/-- Split the record into fields if it changed since. -/
def ensureSplit : AwkM Unit := do
  let r ← get
  if r.split then return
  let fs := r.special "FS"
  let fs := if r.special "RS" == "" && fs == " " then " " else fs
  let parts ← splitFields r.record fs
  let parts ← if r.special "RS" == "" && fs != " " then
      (parts.flatMap (·.splitOn "\n")).mapM pure
    else pure parts
  modify fun r => { r with fields := parts.toArray, nf := parts.length, split := true }

/-- Rebuild the record from the fields. -/
def rebuildRecord : AwkM Unit := do
  let r ← get
  let ofs := r.special "OFS"
  set { r with record := ofs.intercalate r.fields.toList }

/-- Set the record; its fields are split when next used. -/
def setRecord (text : String) : AwkM Unit :=
  modify fun r => { r with record := text, split := false }

/-- A field's value; `$0` is the record. -/
def getField (i : Nat) : AwkM Value := do
  if i == 0 then return .strnum (← get).record
  ensureSplit
  let r ← get
  if i ≤ r.nf then pure (.strnum (r.fields.getD (i - 1) "")) else pure .uninit

/-- Set a field; `$0` sets the record, a field past the last one adds empty fields. -/
def setField (i : Nat) (text : String) : AwkM Unit := do
  if i == 0 then return (← setRecord text)
  ensureSplit
  let r ← get
  let fields := if i > r.nf then r.fields ++ Array.replicate (i - r.nf) "" else r.fields
  set { r with fields := fields.set! (i - 1) text, nf := max r.nf i }
  rebuildRecord

/-- Set `NF`: the fields are cut or padded, and the record rebuilt. -/
def setNF (n : Nat) : AwkM Unit := do
  ensureSplit
  let r ← get
  let fields := if n ≤ r.nf then r.fields.extract 0 n else r.fields ++ Array.replicate (n - r.nf) ""
  set { r with fields, nf := n }
  rebuildRecord

/-- The value of a variable; `NF` counts the fields. -/
def getVar (name : String) : AwkM Value := do
  if name == "NF" then
    ensureSplit
    return .num (Float.ofNat (← get).nf)
  match cellOf? (← get) name with
  | some (.scalar v) => pure v
  | some (.array _) => fault ("can't use array " ++ name ++ " in scalar context")
  | none => pure .uninit

/-- Set a variable; setting `NF` changes the fields. -/
def setVar (name : String) (v : Value) : AwkM Unit := do
  if name == "NF" then
    let n := truncated v.number
    if n < 0 then fault "NF set to negative value"
    setNF n.toNat
  match cellOf? (← get) name with
  | some (.array _) => fault ("can't assign to " ++ name ++ "; it's an array name.")
  | _ => bindCell name (.scalar v)

/-- The record that starts some text, under a record separator: the record and the text after
it; `none` when no text is left. -/
def nextRecord (rs : String) (text : List Char) : AwkM (Option (String × List Char)) := do
  if text.isEmpty then return none
  match rs.toList with
  | [c] =>
    let record := text.takeWhile (· != c)
    pure (some (String.ofList record, text.drop (record.length + 1)))
  | [] =>
    let text := text.dropWhile (· == '\n')
    if text.isEmpty then return none
    let rec para : Nat → List Char → List Char → String × List Char
      | 0, acc, rest => (String.ofList acc.reverse, rest)
      | _, acc, [] => (String.ofList acc.reverse, [])
      | _ + 1, acc, '\n' :: '\n' :: rest => (String.ofList acc.reverse, rest.dropWhile (· == '\n'))
      | fuel + 1, acc, '\n' :: [] => para fuel acc []
      | fuel + 1, acc, c :: rest => para fuel (c :: acc) rest
    pure (some (para (text.length + 1) [] text))
  | _ =>
    let re ← regexOf rs
    let cs := text.toArray
    match re.search cs 0 with
    | some (a, b, _) =>
      if b > a then pure (some (String.ofList (cs.extract 0 a).toList, (cs.extract b cs.size).toList))
      else pure (some (String.ofList text, []))
    | none => pure (some (String.ofList text, []))

/-- Add one to a counter variable (`NR`, `FNR`). -/
def bump (name : String) : AwkM Unit := do
  let v ← getVar name
  setVar name (.num (v.number + 1))

/-- The value of a command-line assignment's text: escapes taken. -/
def assignedText (s : String) : String :=
  match stringBody (s.length + 2) (s.toList ++ ['"']) [] 0 with
  | some (t, _, _) => t
  | none => s

/-- Whether an operand is an assignment `name=value`. -/
def assignment? (a : String) : Option (String × String) :=
  let n := a.toList.takeWhile (· != '=')
  if n.length < a.length && !n.isEmpty && nameStart n.head! && n.all (fun c => c.isAlphanum || c == '_') then
    some (String.ofList n, String.ofList (a.toList.drop (n.length + 1)))
  else none

/-- The standard input, read at once. -/
def standardInput : AwkM (List Char) := do
  match ← (State.readAll : ShellM (Option (List UInt8))) with
  | some bs => pure (Octets.ofBytes bs).toList
  | none => pure []

/-- The next record of the main input, moving through the operands: the record, or `none` at
the end. `NR` and `FNR` count it. -/
def nextMainRecord : Nat → AwkM (Option String)
  | 0 => pure none
  | fuel + 1 => do
    let r ← get
    match r.current with
    | some text =>
      match ← nextRecord (r.special "RS") text with
      | some (record, rest) =>
        modify fun r => { r with current := some rest }
        bump "NR"
        bump "FNR"
        pure (some record)
      | none =>
        modify fun r => { r with current := none }
        nextMainRecord fuel
    | none =>
      let argc := truncated (← getVar "ARGC").number
      if (r.mainArg : Int) < argc then
        let argvId ← arrayOf "ARGV"
        let arg := match (← elements argvId).find? (·.1 == toString r.mainArg) with
          | some (_, v) => v.text "%.6g"
          | none => ""
        modify fun r => { r with mainArg := r.mainArg + 1 }
        if arg.isEmpty then return (← nextMainRecord fuel)
        match assignment? arg with
        | some (n, v) =>
          setVar n (.strnum (assignedText v))
          nextMainRecord fuel
        | none =>
          let text ← if arg == "-" || arg == "/dev/stdin" then standardInput
            else
              match (← (get : ShellM State)).readFile arg with
              | .ok data => pure (Octets.ofByteArray data).toList
              | .error e => fault ("cannot open " ++ arg ++ " (" ++ e.description ++ ")")
          setVar "FILENAME" (.str arg)
          setVar "FNR" (.num 0)
          modify fun r => { r with current := some text, usedFile := true }
          nextMainRecord fuel
      else if !r.usedFile then
        let text ← standardInput
        modify fun r => { r with current := some text, usedFile := true }
        nextMainRecord fuel
      else pure none

/-! ## Output -/

/-- Write bytes to a file of the tree, truncating it first when asked. -/
def writeFileBytes (path : String) (data : ByteArray) (truncate : Bool) : ShellM (Except IoError Unit) := do
  let s ← get
  match s.resolve path true with
  | .error e => pure (.error e)
  | .ok loc =>
    match s.files.lookup loc with
    | some (.file old m) =>
      State.putNode loc (.file (if truncate then data else old ++ data) m)
      pure (.ok ())
    | some _ => pure (.error .isADirectory)
    | none =>
      if loc.dropLast.isEmpty || (s.files.lookup loc.dropLast).any Node.isDir then
        State.putNode loc (.file data (s.createMode 0o666))
        pure (.ok ())
      else pure (.error .notFound)

/-- Write to an output: standard output, or a file or command opened on first use. -/
def writeTo (dest : Option (Redirect × String)) (data : ByteArray) : AwkM Unit := do
  match dest with
  | none => (State.write 1 data : ShellM Unit)
  | some (kind, name) =>
    if name == "/dev/stdout" || name == "-" then return (← (State.write 1 data : ShellM Unit))
    if name == "/dev/stderr" then return (← (State.write 2 data : ShellM Unit))
    let r ← get
    match r.outputs.find? (fun (x : Output) => x.name == name) with
    | some o =>
      match o.kind with
      | .pipe =>
        set { r with outputs := r.outputs.map fun (x : Output) =>
          if x.name == name then { x with pending := x.pending ++ data } else x }
      | _ =>
        match ← (writeFileBytes name data false : ShellM _) with
        | .ok () => pure ()
        | .error _ => fault ("write failure on " ++ name)
    | none =>
      match kind with
      | .pipe => set { r with outputs := r.outputs ++ [({ name, kind, pending := data } : Output)] }
      | _ =>
        match ← (writeFileBytes name data (kind == .file) : ShellM _) with
        | .ok () => set { r with outputs := r.outputs ++ [({ name, kind } : Output)] }
        | .error _ => fault ("cannot open \"" ++ name ++ "\" for output")

/-- Close an output or input by name: a command's output runs it. The status of the command,
`0` for a file, `-1` when nothing of that name is open. -/
def closeStream (name : String) : AwkM Int := do
  let r ← get
  match r.outputs.find? (fun (x : Output) => x.name == name) with
  | some o =>
    set { r with outputs := r.outputs.filter (fun (x : Output) => x.name != name) }
    match o.kind with
    | .pipe =>
      let (status, _) ← (r.host.shell name (some o.pending.toList) false : ShellM _)
      pure status
    | _ => pure 0
  | none =>
    if r.inputs.any (·.1 == name) then
      set { r with inputs := r.inputs.filter (·.1 != name) }
      pure 0
    else pure (-1)

/-- Close every output, in the order they were opened. -/
def closeAll : Nat → AwkM Unit
  | 0 => pure ()
  | fuel + 1 => do
    match (← get).outputs with
    | o :: _ =>
      discard (closeStream o.name)
      closeAll fuel
    | [] => pure ()

/-! ## Built-in helpers -/

/-- The value of `int()` and of truncation toward zero. -/
def truncFloat (x : Float) : Float :=
  if x.isNaN || x.isInf then x else if x < 0 then -((-x).floor) else x.floor

/-- `x % y` as the C library's `fmod`: exact, with the sign of `x`. -/
def fmod (x y : Float) : Float :=
  let bx := Float.binary x
  let bY := Float.binary y
  if !bx.isFinite || y == 0 || y.isNaN then 0 / 0
  else if !bY.isFinite then x
  else
    let (xn, xd) := bx.magnitude.ratio
    let (yn, yd) := bY.magnitude.ratio
    let q := (xn * yd) / (xd * yn)
    let num := xn * yd - q * yn * xd
    let den := xd * yd
    match Decimal.Binary64.ofRatio bx.negative num den with
    | some b => Float.ofBits b.bits
    | none => x

/-- Replace matches of a regular expression in a text: the first one, or all of them (`global`);
`&` in the replacement is the match, `\&` a plain `&`, `\\` a backslash. The new text and how
many were replaced. -/
def substitute (re : Regex) (repl : String) (text : String) (global : Bool) : String × Nat :=
  let cs := text.toList.toArray
  let rec expand : List Char → String → List Char → List Char
    | [], _, acc => acc
    | '\\' :: '&' :: more, m, acc => expand more m ('&' :: acc)
    | '\\' :: '\\' :: more, m, acc => expand more m ('\\' :: acc)
    | '&' :: more, m, acc => expand more m (m.toList.reverse ++ acc)
    | c :: more, m, acc => expand more m (c :: acc)
  let rec go : Nat → Nat → Option Nat → List Char → Nat → List Char × Nat
    | 0, pos, _, acc, n => (acc.reverse ++ (cs.extract pos cs.size).toList, n)
    | fuel + 1, pos, lastEnd, acc, n =>
      if !global && n > 0 then (acc.reverse ++ (cs.extract pos cs.size).toList, n)
      else match re.search cs pos with
        | none => (acc.reverse ++ (cs.extract pos cs.size).toList, n)
        | some (a, b, _) =>
          if a == b && lastEnd == some a then
            -- an empty match right after a match is skipped
            if a < cs.size then go fuel (a + 1) none (cs.getD a ' ' :: (cs.extract pos a).toList.reverse ++ acc) n
            else (acc.reverse ++ (cs.extract pos cs.size).toList, n)
          else
            let m := String.ofList (cs.extract a b).toList
            let acc := expand repl.toList m ((cs.extract pos a).toList.reverse ++ acc)
            if a == b then
              if a < cs.size then go fuel (a + 1) (some a) (cs.getD a ' ' :: acc) (n + 1)
              else (acc.reverse, n + 1)
            else go fuel b (some b) acc (n + 1)
  let (out, n) := go (cs.size + 2) 0 none [] 0
  (String.ofList out, n)

/-- The position of a text in another, from one; `0` when it is not there. -/
def indexOf (s t : String) : Nat :=
  if t.isEmpty then 0
  else
    let cs := s.toList
    let ts := t.toList
    match (List.range cs.length).find? (fun i => ts.isPrefixOf (cs.drop i)) with
    | some i => i + 1
    | none => 0

/-- A number rounded to the nearest integer, halves away from zero. -/
def roundHalf (x : Float) : Int := truncated (if x < 0 then x - 0.5 else x + 0.5)

/-- `substr(s, m, n)`: the characters from position `m`, `n` of them (to the end when `n` is
not given), positions before the first not counted. -/
def substring (s : String) (m : Float) (n : Option Float) : String :=
  let len : Int := s.length
  let start := roundHalf m
  let stop : Int := match n with
    | some k => if k.isNaN then start else start + roundHalf k
    | none => len + 1
  let a := max start 1
  let b := min stop (len + 1)
  if b ≤ a then "" else String.ofList ((s.toList.drop (a - 1).toNat).take (b - a).toNat)

/-- Whether a function's body uses a parameter as an array. -/
def usesArray (p : String) : Nat → Stmt → Bool
  | 0, _ => false
  | fuel + 1, s =>
    let e := usesArrayE p fuel
    match s with
    | .expr x => e x
    | .print args dest | .printf args dest => args.any e || dest.any (fun (_, d) => e d)
    | .ifElse c t f => e c || usesArray p fuel t || f.any (usesArray p fuel)
    | .whileLoop c b | .doLoop b c => e c || usesArray p fuel b
    | .forLoop i c st b =>
      i.any (usesArray p fuel) || c.any e || st.any (usesArray p fuel) || usesArray p fuel b
    | .forIn _ arr b => arr == p || usesArray p fuel b
    | .block ss => ss.any (usesArray p fuel)
    | .exit x | .ret x => x.any e
    | .delete arr subs => arr == p || subs.any (·.any e)
    | _ => false
where
  /-- Whether an expression uses a parameter as an array. -/
  usesArrayE (p : String) : Nat → Expr → Bool
    | 0, _ => false
    | fuel + 1, x =>
      let e := usesArrayE p fuel
      match x with
      | .elem a subs => a == p || subs.any e
      | .member subs a => a == p || subs.any e
      | .builtin "split" (s :: .var a :: rest) => a == p || e s || rest.any e
      | .builtin _ args | .call _ args => args.any e
      | .field i | .group i | .not i | .neg i | .plus i | .incr _ _ i => e i
      | .assign _ t v => e t || e v
      | .cond c a b => e c || e a || e b
      | .and a b | .or a b | .binary _ a b | .matches _ a b => e a || e b
      | .getline t s _ => t.any e || s.any e
      | _ => false

/-- A pseudo-random number generator step (a 48-bit linear congruence). -/
def nextSeed (seed : Nat) : Nat := (seed * 25214903917 + 11) % Nat.pow 2 48

/-! ## Evaluation -/

/-- Arithmetic on two values. -/
def arith (op : BinOp) (a b : Value) : AwkM Value := do
  let x := a.number
  let y := b.number
  match op with
  | .add => pure (.num (x + y))
  | .sub => pure (.num (x - y))
  | .mul => pure (.num (x * y))
  | .div => if y == 0 then fault "division by zero" else pure (.num (x / y))
  | .mod => if y == 0 then fault "division by zero in %" else pure (.num (fmod x y))
  | .pow => pure (.num (x.pow y))
  | _ => pure (.num 0)


mutual
/-- Evaluate an expression. -/
def eval (fuel : Nat) (e : Expr) : AwkM Value :=
  match fuel with
  | 0 => fault "expression nests too deeply"
  | fuel + 1 => do
    match e with
    | .num x => pure (.num x)
    | .str s => pure (.str s)
    | .regex src => do
      let re ← regexOf src
      pure (.num (if re.test (← get).record then 1 else 0))
    | .var n => getVar n
    | .field i => do
      let k := truncated (← eval fuel i).number
      if k < 0 then fault ("negative field index $" ++ toString k)
      getField k.toNat
    | .elem a subs => do
      let id ← arrayOf a
      let key ← subscript fuel subs
      match (← elements id).find? (·.1 == key) with
      | some (_, v) => pure v
      | none =>
        setElement id key .uninit
        pure .uninit
    | .group x => eval fuel x
    | .assign op target value => do
      let v ← eval fuel value
      let v ← match op with
        | none => pure v
        | some o => do
          let old ← eval fuel target
          arith o old v
      assignTo fuel target v
      pure v
    | .cond c a b => do
      if (← eval fuel c).truth then eval fuel a else eval fuel b
    | .and a b => do
      if (← eval fuel a).truth then pure (.num (if (← eval fuel b).truth then 1 else 0))
      else pure (.num 0)
    | .or a b => do
      if (← eval fuel a).truth then pure (.num 1)
      else pure (.num (if (← eval fuel b).truth then 1 else 0))
    | .not a => do pure (.num (if (← eval fuel a).truth then 0 else 1))
    | .binary op a b => do
      let x ← eval fuel a
      let y ← eval fuel b
      match op with
      | .concat => pure (.str ((← textOf x) ++ (← textOf y)))
      | .lt | .le | .gt | .ge | .eq | .ne =>
        let ord := compareValues (← convfmt) x y
        let holds := match op, ord with
          | .lt, some .lt => true
          | .le, some .lt | .le, some .eq => true
          | .gt, some .gt => true
          | .ge, some .gt | .ge, some .eq => true
          | .eq, some .eq => true
          | .ne, some .lt | .ne, some .gt | .ne, none => true
          | _, _ => false
        pure (.num (if holds then 1 else 0))
      | _ => arith op x y
    | .matches negated s p => do
      let text ← textOf (← eval fuel s)
      let re ← regexArg fuel p
      pure (.num (if re.test text != negated then 1 else 0))
    | .neg a => do pure (.num (-(← eval fuel a).number))
    | .plus a => do pure (.num (← eval fuel a).number)
    | .incr before up target => do
      let old := (← eval fuel target).number
      let new := if up then old + 1 else old - 1
      assignTo fuel target (.num new)
      pure (.num (if before then new else old))
    | .member subs a => do
      let id ← arrayOf a
      let key ← subscript fuel subs
      pure (.num (if (← elements id).any (·.1 == key) then 1 else 0))
    | .call name args => callUser fuel name args
    | .builtin name args => builtin fuel name args
    | .getline target source fromCommand => getline fuel target source fromCommand

/-- The subscript of an element: the texts of its expressions joined by `SUBSEP`. -/
def subscript (fuel : Nat) (subs : List Expr) : AwkM String :=
  match fuel with
  | 0 => fault "expression nests too deeply"
  | fuel + 1 => do
    let mut texts : List String := []
    for s in subs do
      texts := texts ++ [← textOf (← eval fuel s)]
    pure ((← get).special "SUBSEP" |>.intercalate texts)

/-- The regular expression an argument stands for: a literal, or the text of a value. -/
def regexArg (fuel : Nat) (e : Expr) : AwkM Regex :=
  match fuel with
  | 0 => fault "expression nests too deeply"
  | fuel + 1 => do
    match e with
    | .regex src => regexOf src
    | other => regexOf (← textOf (← eval fuel other))

/-- Assign to a variable, a field or an element. -/
def assignTo (fuel : Nat) (target : Expr) (v : Value) : AwkM Unit :=
  match fuel with
  | 0 => fault "expression nests too deeply"
  | fuel + 1 => do
    match target with
    | .var n => setVar n v
    | .field i => do
      let k := truncated (← eval fuel i).number
      if k < 0 then fault ("negative field index $" ++ toString k)
      setField k.toNat (← textOf v)
    | .elem a subs => do
      let id ← arrayOf a
      let key ← subscript fuel subs
      setElement id key v
    | .group x => assignTo fuel x v
    | _ => fault "assignment to something that is not a variable"

/-- Call a function of the program. -/
def callUser (fuel : Nat) (name : String) (args : List Expr) : AwkM Value :=
  match fuel with
  | 0 => fault "function call nesting too deep"
  | fuel + 1 => do
    let r ← get
    match r.program.functions.find? (·.name == name) with
    | none => fault ("function " ++ name ++ " never defined")
    | some f =>
      if args.length > f.params.length then fault ("too many arguments in call to " ++ name)
      let mut frame : List (String × Cell) := []
      for (p, i) in f.params.zipIdx do
        let asArray := f.body.any (usesArray p (8 * f.body.length + 64))
        let cell ← match args[i]? with
          | some (.var n) => do
            match cellOf? (← get) n with
            | some (.array id) => pure (Cell.array id)
            | some (.scalar .uninit) | none =>
              if asArray then
                let id ← newArray
                bindCell n (.array id)
                pure (Cell.array id)
              else pure (Cell.scalar .uninit)
            | some (.scalar v) => pure (Cell.scalar v)
          | some arg => do pure (Cell.scalar (← eval fuel arg))
          | none =>
            if asArray then do pure (Cell.array (← newArray)) else pure (Cell.scalar .uninit)
        frame := frame ++ [(p, cell)]
      modify fun r => { r with frames := frame :: r.frames }
      let result ← tryCatch (do
          let c ← runBlock fuel f.body
          modify fun r => { r with frames := r.frames.drop 1 }
          pure c)
        (fun stop => do
          modify fun r => { r with frames := r.frames.drop 1 }
          throw stop)
      match result with
      | .ret v => pure v
      | _ => pure .uninit

/-- A built-in function. -/
def builtin (fuel : Nat) (name : String) (args : List Expr) : AwkM Value :=
  match fuel with
  | 0 => fault "expression nests too deeply"
  | fuel + 1 => do
    let num (i : Nat) : AwkM Float := do
      match args[i]? with
      | some a => pure (← eval fuel a).number
      | none => pure 0
    let text (i : Nat) : AwkM String := do
      match args[i]? with
      | some a => textOf (← eval fuel a)
      | none => pure ""
    match name with
    | "length" =>
      match args with
      | [] => pure (.num (Float.ofNat (← get).record.length))
      | [.var n] =>
        match cellOf? (← get) n with
        | some (.array id) => pure (.num (Float.ofNat (← elements id).length))
        | _ => pure (.num (Float.ofNat (← text 0).length))
      | _ => pure (.num (Float.ofNat (← text 0).length))
    | "substr" =>
      let s ← text 0
      let m ← num 1
      let n ← if args.length > 2 then do pure (some (← num 2)) else pure none
      pure (.str (substring s m n))
    | "index" =>
      let s ← text 0
      let t ← text 1
      pure (.num (Float.ofNat (indexOf s t)))
    | "split" =>
      match args with
      | s :: .var a :: rest =>
        let textV ← textOf (← eval fuel s)
        let parts ← match rest with
          | [] => splitFields textV ((← get).special "FS")
          | sep :: _ =>
            match sep with
            | .regex src => do pure (splitAt (← regexOf src) textV)
            | other => do splitFields textV (← textOf (← eval fuel other))
        let id ← arrayOf a
        removeElement id none
        for (p, i) in parts.zipIdx do
          setElement id (toString (i + 1)) (.strnum p)
        pure (.num (Float.ofNat parts.length))
      | _ => fault "split requires an array"
    | "sub" | "gsub" =>
      match args with
      | re :: repl :: rest =>
        let regex ← regexArg fuel re
        let replacement ← textOf (← eval fuel repl)
        let target := rest.headD (.field (.num 0))
        let old ← textOf (← eval fuel target)
        let (new, n) := substitute regex replacement old (name == "gsub")
        if n > 0 then assignTo fuel target (.str new)
        pure (.num (Float.ofNat n))
      | _ => fault (name ++ " requires two arguments")
    | "match" =>
      match args with
      | s :: re :: _ =>
        let textV ← textOf (← eval fuel s)
        let regex ← regexArg fuel re
        match regex.search textV.toList.toArray 0 with
        | some (a, b, _) =>
          setVar "RSTART" (.num (Float.ofNat (a + 1)))
          setVar "RLENGTH" (.num (Float.ofNat (b - a)))
          pure (.num (Float.ofNat (a + 1)))
        | none =>
          setVar "RSTART" (.num 0)
          setVar "RLENGTH" (.num (-1))
          pure (.num 0)
      | _ => fault "match requires two arguments"
    | "sprintf" =>
      match args with
      | [] => pure (.str "")
      | f :: rest =>
        let fmt ← textOf (← eval fuel f)
        let mut values : List Value := []
        for a in rest do
          values := values ++ [← eval fuel a]
        match format (← convfmt) fmt values with
        | .ok t => pure (.str t)
        | .error e => fault e
    | "int" => pure (.num (truncFloat (← num 0)))
    | "sqrt" => pure (.num (← num 0).sqrt)
    | "exp" => pure (.num (← num 0).exp)
    | "log" => pure (.num (← num 0).log)
    | "sin" => pure (.num (← num 0).sin)
    | "cos" => pure (.num (← num 0).cos)
    | "atan2" => pure (.num (Float.atan2 (← num 0) (← num 1)))
    | "rand" =>
      let r ← get
      let s := nextSeed r.seed
      set { r with seed := s }
      pure (.num (Float.ofNat s / Float.ofNat (Nat.pow 2 48)))
    | "srand" =>
      let r ← get
      let new ← if args.isEmpty then pure 0 else do pure (truncated (← num 0)).toNat
      set { r with seed := new, prevSeed := new }
      pure (.num (Float.ofNat r.prevSeed))
    | "tolower" => pure (.str (String.ofList ((← text 0).toList.map Char.toLower)))
    | "toupper" => pure (.str (String.ofList ((← text 0).toList.map Char.toUpper)))
    | "system" =>
      let cmd ← text 0
      let r ← get
      let (status, _) ← (r.host.shell cmd none false : ShellM _)
      pure (.num (Float.ofNat status))
    | "close" =>
      let n ← text 0
      pure (.num (ofInt (← closeStream n)))
    | "fflush" => pure (.num 0)
    | _ => fault ("function " ++ name ++ " never defined")

/-- `getline`: read a record into `$0` or a variable, from the main input, a file or a command;
`1`, `0` at the end, `-1` when the source cannot be read. -/
def getline (fuel : Nat) (target : Option Expr) (source : Option Expr) (fromCommand : Bool) :
    AwkM Value :=
  match fuel with
  | 0 => fault "expression nests too deeply"
  | fuel + 1 => do
    let store (record : String) (counted : Bool) : AwkM Unit := do
      match target with
      | some t => assignTo fuel t (.strnum record)
      | none => setRecord record
      if counted then bump "NR"
    match source with
    | none =>
      match ← nextMainRecord (8 * fuel + 8) with
      | some record =>
        match target with
        | some t => assignTo fuel t (.strnum record)
        | none => setRecord record
        pure (.num 1)
      | none => pure (.num 0)
    | some src =>
      let name ← textOf (← eval fuel src)
      let r ← get
      let text? ← match r.inputs.find? (·.1 == name) with
        | some (_, text) => pure (some text)
        | none =>
          if fromCommand then do
            let (_, out) ← (r.host.shell name none true : ShellM _)
            pure (some (Octets.ofBytes out).toList)
          else if name == "-" || name == "/dev/stdin" then do pure (some (← standardInput))
          else
            match (← (get : ShellM State)).readFile name with
            | .ok data => pure (some (Octets.ofByteArray data).toList)
            | .error _ => pure none
      match text? with
      | none => pure (.num (-1))
      | some text =>
        match ← nextRecord ((← get).special "RS") text with
        | some (record, rest) =>
          modify fun r => { r with inputs := (name, rest) :: r.inputs.filter (·.1 != name) }
          store record fromCommand
          pure (.num 1)
        | none =>
          modify fun r => { r with inputs := (name, []) :: r.inputs.filter (·.1 != name) }
          pure (.num 0)

/-- Run statements in order. -/
def runBlock (fuel : Nat) (ss : List Stmt) : AwkM Completion :=
  match fuel, ss with
  | 0, _ => fault "statement nests too deeply"
  | _, [] => pure .normal
  | fuel + 1, s :: rest => do
    match ← run fuel s with
    | .normal => runBlock fuel rest
    | other => pure other

/-- Run a statement. -/
def run (fuel : Nat) (s : Stmt) : AwkM Completion :=
  match fuel with
  | 0 => fault "statement nests too deeply"
  | fuel + 1 => do
    if !(← (State.spend : ShellM Bool)) then throw .killed
    match s with
    | .expr e => do
      discard (eval fuel e)
      pure .normal
    | .print args dest => do
      let r ← get
      let ofmt := r.special "OFMT"
      let mut texts : List String := []
      for a in args do
        let v ← eval fuel a
        texts := texts ++ [match v with
          | .num x => numberText ofmt x
          | other => other.text ofmt]
      let now ← get
      let line := if args.isEmpty then now.record else (now.special "OFS").intercalate texts
      let d ← destination fuel dest
      writeTo d (Octets.toByteArray (line ++ (← get).special "ORS"))
      pure .normal
    | .printf args dest => do
      match args with
      | [] => pure .normal
      | f :: rest =>
        let fmt ← textOf (← eval fuel f)
        let mut values : List Value := []
        for a in rest do
          values := values ++ [← eval fuel a]
        match format (← convfmt) fmt values with
        | .ok t =>
          let d ← destination fuel dest
          writeTo d (Octets.toByteArray t)
          pure .normal
        | .error e => fault e
    | .ifElse c t e => do
      if (← eval fuel c).truth then run fuel t
      else match e with
        | some x => run fuel x
        | none => pure .normal
    | .whileLoop c body => loopWhile fuel c body
    | .doLoop body c => do
      match ← run fuel body with
      | .brk => pure .normal
      | .ret v => pure (.ret v)
      | _ => loopWhile fuel c body
    | .forLoop init c step body => do
      if let some i := init then discard (run fuel i)
      loopFor fuel c step body
    | .forIn var arr body => do
      let id ← arrayOf arr
      let keys := ((← elements id).map (·.1)).mergeSort (fun a b => compare a.toList b.toList != .gt)
      loopKeys fuel var id keys body
    | .block ss => runBlock fuel ss
    | .next => throw .next
    | .nextFile => throw .nextFile
    | .exit status => do
      if let some e := status then
        let v := truncated (← eval fuel e).number
        modify fun r => { r with exitStatus := (v % 256).toNat }
      throw .exit
    | .ret value => do
      match value with
      | some e => pure (.ret (← eval fuel e))
      | none => pure (.ret .uninit)
    | .brk => pure .brk
    | .cont => pure .cont
    | .delete arr subs => do
      let id ← arrayOf arr
      match subs with
      | some ss => removeElement id (some (← subscript fuel ss))
      | none => removeElement id none
      pure .normal

/-- The output a redirection names. -/
def destination (fuel : Nat) (dest : Option (Redirect × Expr)) : AwkM (Option (Redirect × String)) :=
  match fuel with
  | 0 => fault "expression nests too deeply"
  | fuel + 1 => do
    match dest with
    | none => pure none
    | some (k, e) => pure (some (k, ← textOf (← eval fuel e)))

/-- A `while` loop from its test. -/
def loopWhile (fuel : Nat) (c : Expr) (body : Stmt) : AwkM Completion :=
  match fuel with
  | 0 => throw .killed
  | fuel + 1 => do
    if !(← (State.spend : ShellM Bool)) then throw .killed
    if !(← eval fuel c).truth then return .normal
    match ← run fuel body with
    | .brk => pure .normal
    | .ret v => pure (.ret v)
    | _ => loopWhile fuel c body

/-- A `for (;;)` loop from its test. -/
def loopFor (fuel : Nat) (c : Option Expr) (step : Option Stmt) (body : Stmt) : AwkM Completion :=
  match fuel with
  | 0 => throw .killed
  | fuel + 1 => do
    if !(← (State.spend : ShellM Bool)) then throw .killed
    if let some x := c then
      if !(← eval fuel x).truth then return .normal
    match ← run fuel body with
    | .brk => pure .normal
    | .ret v => pure (.ret v)
    | _ =>
      if let some st := step then discard (run fuel st)
      loopFor fuel c step body

/-- A `for (key in array)` loop over the keys left. -/
def loopKeys (fuel : Nat) (var : String) (id : Nat) (keys : List String) (body : Stmt) :
    AwkM Completion :=
  match fuel, keys with
  | 0, _ => throw .killed
  | _, [] => pure .normal
  | fuel + 1, k :: more => do
    setVar var (.strnum k)
    match ← run fuel body with
    | .brk => pure .normal
    | .ret v => pure (.ret v)
    | _ => loopKeys fuel var id more body
end

end Awk

end HostAgent.Shell
