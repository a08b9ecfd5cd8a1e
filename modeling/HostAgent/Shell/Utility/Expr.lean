import HostAgent.Shell.Utility.Core
import HostAgent.Shell.Regex

/-!
# `HostAgent.Shell.Utility.Expr` — `expr`

`expr` evaluates an expression given as separate arguments. From the loosest binding:

* `a | b` — `a` unless it is null (empty or zero), else `b` (or `0`);
* `a & b` — `a` unless one of them is null, else `0`;
* `a < b`, `<=`, `=` (`==`), `!=`, `>=`, `>` — `1` or `0`, comparing as integers when both look
  like integers, as bytes otherwise;
* `a + b`, `a - b`, then `a * b`, `a / b`, `a % b` — integers without bounds, division
  truncating; an operand that is not an integer is an error, and so is dividing by zero;
* `s : re` — the match of a basic regular expression at the start of `s`: the text of the first
  group when there is one, the length matched otherwise;
* `match s re`, `substr s pos len`, `index s chars`, `length s`, `+ token` (the token as a
  string), and parentheses.

An operand that is not evaluated (the right side of `|` when the left is not null, of `&` when it
is) raises no error. The value is printed; the status is 0 when it is not null, 1 when it is, 2
when the expression is wrong.
-/

namespace HostAgent.Shell

namespace Utility

/-- A value of `expr`. -/
inductive ExprValue where
  | int (v : Int)
  | str (s : String)
  deriving Repr, Inhabited

/-- Whether a text is an optional `-` and decimal digits. -/
def looksLikeInteger (s : String) : Bool :=
  let cs := match s.toList with
    | '-' :: more => more
    | cs => cs
  !cs.isEmpty && cs.all Char.isDigit

/-- The integer a text that looks like one stands for. -/
def integerOf (s : String) : Int :=
  match s.toList with
  | '-' :: more => -((more.foldl (fun v c => 10 * v + (c.toNat - 48)) 0 : Nat) : Int)
  | cs => ((cs.foldl (fun v c => 10 * v + (c.toNat - 48)) 0 : Nat) : Int)

namespace ExprValue

/-- The text of a value. -/
def text : ExprValue → String
  | .int v => toString v
  | .str s => s

/-- The value as an integer, when it is one or looks like one. -/
def toInt? : ExprValue → Option Int
  | .int v => some v
  | .str s => if looksLikeInteger s then some (integerOf s) else none

/-- Whether a value is null: zero, or a text that is empty or only zeros after an optional
`-`. -/
def isNull : ExprValue → Bool
  | .int v => v == 0
  | .str s =>
    let cs := match s.toList with
      | '-' :: more => more
      | cs => cs
    s.isEmpty || (!cs.isEmpty && cs.all (· == '0'))

end ExprValue

/-- Where `expr` is in its arguments: those left and the last one taken. -/
structure ExprCursor where
  rest : List String
  last : String

/-- The computations of `expr`'s parser: they fail with a message and a status. -/
abbrev ExprM := StateT ExprCursor (Except (String × Nat))

/-- Take the next argument if it is `s`. -/
def nextArg (s : String) : ExprM Bool := do
  let c ← get
  match c.rest with
  | a :: more =>
    if a == s then
      set { rest := more, last := a : ExprCursor }
      pure true
    else pure false
  | [] => pure false

/-- Take the next argument, whatever it is. -/
def takeArg : ExprM String := do
  let c ← get
  match c.rest with
  | a :: more =>
    set { rest := more, last := a : ExprCursor }
    pure a
  | [] => throw ("syntax error: missing argument after " ++ quoteAlways c.last, 2)

/-- `s : re`: the match of `re` at the start of `s`. -/
def colonMatch (s re : String) : Except (String × Nat) ExprValue :=
  match Regex.compile {} re with
  | .error e => .error (e, 2)
  | .ok r =>
    let text := s.toList.toArray
    match r.matchAt text 0 with
    | some (e, caps) =>
      if r.groups > 0 then .ok (.str (Regex.captured text caps 1)) else .ok (.int e)
    | none => if r.groups > 0 then .ok (.str "") else .ok (.int 0)

/-- Two integers of an arithmetic operator, or the error when one is not. -/
def arithmeticArgs (l r : ExprValue) : ExprM (Int × Int) :=
  match l.toInt?, r.toInt? with
  | some a, some b => pure (a, b)
  | _, _ => throw ("non-integer argument", 2)

mutual
/-- `a | b`. -/
def exprOr (fuel : Nat) (evaluate : Bool) : ExprM ExprValue :=
  match fuel with
  | 0 => throw ("expression too deep", 2)
  | fuel + 1 => do
    let l ← exprAnd fuel evaluate
    orRest fuel evaluate l

/-- The `| b` parts after a left side. -/
def orRest (fuel : Nat) (evaluate : Bool) (l : ExprValue) : ExprM ExprValue :=
  match fuel with
  | 0 => throw ("expression too deep", 2)
  | fuel + 1 => do
    if ← nextArg "|" then
      let r ← exprAnd fuel (evaluate && l.isNull)
      let l := if l.isNull then (if r.isNull then .int 0 else r) else l
      orRest fuel evaluate l
    else pure l

/-- `a & b`. -/
def exprAnd (fuel : Nat) (evaluate : Bool) : ExprM ExprValue :=
  match fuel with
  | 0 => throw ("expression too deep", 2)
  | fuel + 1 => do
    let l ← exprCompare fuel evaluate
    andRest fuel evaluate l

/-- The `& b` parts after a left side. -/
def andRest (fuel : Nat) (evaluate : Bool) (l : ExprValue) : ExprM ExprValue :=
  match fuel with
  | 0 => throw ("expression too deep", 2)
  | fuel + 1 => do
    if ← nextArg "&" then
      let r ← exprCompare fuel (evaluate && !l.isNull)
      let l := if l.isNull || r.isNull then .int 0 else l
      andRest fuel evaluate l
    else pure l

/-- Comparisons. -/
def exprCompare (fuel : Nat) (evaluate : Bool) : ExprM ExprValue :=
  match fuel with
  | 0 => throw ("expression too deep", 2)
  | fuel + 1 => do
    let l ← exprSum fuel evaluate
    compareRest fuel evaluate l

/-- The comparisons after a left side. -/
def compareRest (fuel : Nat) (evaluate : Bool) (l : ExprValue) : ExprM ExprValue :=
  match fuel with
  | 0 => throw ("expression too deep", 2)
  | fuel + 1 => do
    let ops := ["<", "<=", "=", "==", "!=", ">=", ">"]
    let c ← get
    match c.rest with
    | op :: _ =>
      if ops.contains op then
        discard takeArg
        let r ← exprSum fuel evaluate
        if !evaluate then return (← compareRest fuel evaluate (.int 0))
        let order : Ordering :=
          if looksLikeInteger l.text && looksLikeInteger r.text then
            compare (integerOf l.text) (integerOf r.text)
          else compare l.text.toList r.text.toList
        let holds : Bool := match op with
          | "<" => order == .lt
          | "<=" => order != .gt
          | "=" | "==" => order == .eq
          | "!=" => order != .eq
          | ">=" => order != .lt
          | _ => order == .gt
        compareRest fuel evaluate (.int (if holds then 1 else 0))
      else pure l
    | [] => pure l

/-- Sums. -/
def exprSum (fuel : Nat) (evaluate : Bool) : ExprM ExprValue :=
  match fuel with
  | 0 => throw ("expression too deep", 2)
  | fuel + 1 => do
    let l ← exprProduct fuel evaluate
    sumRest fuel evaluate l

/-- The `+ b` and `- b` parts after a left side. -/
def sumRest (fuel : Nat) (evaluate : Bool) (l : ExprValue) : ExprM ExprValue :=
  match fuel with
  | 0 => throw ("expression too deep", 2)
  | fuel + 1 => do
    let plus ← nextArg "+"
    let minus ← if plus then pure false else nextArg "-"
    if plus || minus then
      let r ← exprProduct fuel evaluate
      if !evaluate then return (← sumRest fuel evaluate (.int 0))
      let (a, b) ← arithmeticArgs l r
      sumRest fuel evaluate (.int (if plus then a + b else a - b))
    else pure l

/-- Products. -/
def exprProduct (fuel : Nat) (evaluate : Bool) : ExprM ExprValue :=
  match fuel with
  | 0 => throw ("expression too deep", 2)
  | fuel + 1 => do
    let l ← exprColon fuel evaluate
    productRest fuel evaluate l

/-- The `* b`, `/ b` and `% b` parts after a left side. -/
def productRest (fuel : Nat) (evaluate : Bool) (l : ExprValue) : ExprM ExprValue :=
  match fuel with
  | 0 => throw ("expression too deep", 2)
  | fuel + 1 => do
    let c ← get
    match c.rest with
    | op :: _ =>
      if op == "*" || op == "/" || op == "%" then
        discard takeArg
        let r ← exprColon fuel evaluate
        if !evaluate then return (← productRest fuel evaluate (.int 0))
        let (a, b) ← arithmeticArgs l r
        if op != "*" && b == 0 then throw ("division by zero", 2)
        let v := if op == "*" then a * b else if op == "/" then a.tdiv b else a.tmod b
        productRest fuel evaluate (.int v)
      else pure l
    | [] => pure l

/-- Matches with `:`. -/
def exprColon (fuel : Nat) (evaluate : Bool) : ExprM ExprValue :=
  match fuel with
  | 0 => throw ("expression too deep", 2)
  | fuel + 1 => do
    let l ← exprUnary fuel evaluate
    colonRest fuel evaluate l

/-- The `: re` parts after a left side. -/
def colonRest (fuel : Nat) (evaluate : Bool) (l : ExprValue) : ExprM ExprValue :=
  match fuel with
  | 0 => throw ("expression too deep", 2)
  | fuel + 1 => do
    if ← nextArg ":" then
      let r ← exprUnary fuel evaluate
      if !evaluate then return (← colonRest fuel evaluate (.int 0))
      match colonMatch l.text r.text with
      | .ok v => colonRest fuel evaluate v
      | .error e => throw e
    else pure l

/-- The keyword operators `+`, `length`, `match`, `index` and `substr`. -/
def exprUnary (fuel : Nat) (evaluate : Bool) : ExprM ExprValue :=
  match fuel with
  | 0 => throw ("expression too deep", 2)
  | fuel + 1 => do
    if ← nextArg "+" then
      pure (.str (← takeArg))
    else if ← nextArg "length" then
      let r ← exprUnary fuel evaluate
      pure (.int r.text.length)
    else if ← nextArg "match" then
      let l ← exprUnary fuel evaluate
      let r ← exprUnary fuel evaluate
      if !evaluate then return .int 0
      match colonMatch l.text r.text with
      | .ok v => pure v
      | .error e => throw e
    else if ← nextArg "index" then
      let l ← exprUnary fuel evaluate
      let r ← exprUnary fuel evaluate
      let chars := r.text.toList
      let pos : Nat := ((l.text.toList.findIdx? (chars.contains ·)).map (· + 1)).getD 0
      pure (.int pos)
    else if ← nextArg "substr" then
      let l ← exprUnary fuel evaluate
      let i1 ← exprUnary fuel evaluate
      let i2 ← exprUnary fuel evaluate
      match i1.toInt?, i2.toInt? with
      | some pos, some len =>
        let s := l.text.toList
        if pos ≤ 0 || len ≤ 0 || pos > s.length then pure (.str "")
        else pure (.str (String.ofList ((s.drop (pos.toNat - 1)).take len.toNat)))
      | _, _ => pure (.str "")
    else exprAtom fuel evaluate

/-- A parenthesised expression or a plain argument. -/
def exprAtom (fuel : Nat) (evaluate : Bool) : ExprM ExprValue :=
  match fuel with
  | 0 => throw ("expression too deep", 2)
  | fuel + 1 => do
    let c ← get
    if c.rest.isEmpty then throw ("syntax error: missing argument after " ++ quoteAlways c.last, 2)
    if ← nextArg "(" then
      let v ← exprOr fuel evaluate
      let c ← get
      match c.rest with
      | [] => throw ("syntax error: expecting ')' after " ++ quoteAlways c.last, 2)
      | a :: _ =>
        if ← nextArg ")" then pure v
        else throw ("syntax error: expecting ')' instead of " ++ quoteAlways a, 2)
    else if ← nextArg ")" then throw ("syntax error: unexpected ')'", 2)
    else pure (.str (← takeArg))
end

/-- `expr expression...`: print the value; status 0 when it is not null, 1 when it is, 2 for an
expression that is wrong. -/
def expr (inv : Invocation) : UtilM := do
  let args := match inv.args with
    | "--" :: more => more
    | args => args
  if inv.args == ["--help"] || inv.args == ["--version"] then
    emitText ("Usage: " ++ inv.argv0 ++ " EXPRESSION\n")
    return 0
  if args.isEmpty then return (← misuse inv "missing operand" 2)
  match (exprOr (8 * args.length + 8) true).run { rest := args, last := "" } with
  | .error (message, status) =>
    complain inv message
    pure status
  | .ok (v, c) =>
    match c.rest with
    | a :: _ =>
      complain inv ("syntax error: unexpected argument " ++ quoteAlways a)
      pure 2
    | [] =>
      emitText (v.text ++ "\n")
      closeOutput inv (if v.isNull then 1 else 0)
end Utility

end HostAgent.Shell
