import HostAgent.Shell.Awk.Lex

/-!
# `HostAgent.Shell.Awk.Parse` — parsing awk programs

A recursive descent over the tokens of `HostAgent.Shell.Awk.Lex`, with the precedence of POSIX
awk, from the loosest: assignment (right to left), `?:`, `||`, `&&`, `in`, `~` and `!~`, the
comparisons, concatenation, `+` and `-`, `*`, `/` and `%`, unary `!`, `-` and `+`, `^` (right to
left), `++` and `--`, `$`, and parentheses.

Two contexts change the grammar:

* in the arguments of `print` and `printf`, a `>` outside parentheses is a redirection, not a
  comparison (`noGt`);
* `command | getline` binds tighter than the comparisons and looser than concatenation, so
  `"cmd" | getline > 0` tests what `getline` returned.

Newlines end statements, but may follow `{`, `&&`, `||`, `,`, `do`, `else`, and the `)` of `if`,
`while` and `for`. Every function takes a fuel that bounds its nesting, so parsing is total.
-/

namespace HostAgent.Shell

namespace Awk

/-- The tokens being parsed and the position reached. -/
structure Parser where
  toks : Array Lexed
  pos : Nat

/-- A parsing computation; it fails with a message and a line. -/
abbrev ParseM := StateT Parser (Except (String × Nat))

/-- The token at the position reached, and `k` tokens further. -/
def peekAt (k : Nat) : ParseM Token := do
  let p ← get
  pure (p.toks.getD (p.pos + k) { tok := .eof, line := 0 }).tok

/-- The token at the position reached. -/
def peek : ParseM Token := peekAt 0

/-- The line of the token at the position reached. -/
def lineHere : ParseM Nat := do
  let p ← get
  pure (p.toks.getD p.pos { tok := .eof, line := (p.toks.back?.map (·.line)).getD 1 }).line

/-- Move past a token. -/
def advance : ParseM Unit := modify fun p => { p with pos := p.pos + 1 }

/-- Fail at the token reached. -/
def failHere {α : Type} : ParseM α := do
  let t ← peek
  throw ("syntax error at or near " ++ t.text, ← lineHere)

/-- Whether a token is an operator. -/
def Token.isOp (t : Token) (s : String) : Bool :=
  match t with
  | .op o => o == s
  | _ => false

/-- Whether a token is a keyword. -/
def Token.isKeyword (t : Token) (s : String) : Bool :=
  match t with
  | .keyword k => k == s
  | _ => false

/-- Whether a token is a newline. -/
def Token.isNewline : Token → Bool
  | .newline => true
  | _ => false

/-- Whether a token ends a simple statement. -/
def Token.endsStatement : Token → Bool
  | .newline | .semi | .rbrace | .eof => true
  | _ => false

/-- Whether a token may start an operand of a concatenation. -/
def Token.startsOperand : Token → Bool
  | .number _ | .string _ | .regex _ | .name _ | .funcName _ | .builtinName _ | .lparen => true
  | .op "$" | .op "++" | .op "--" | .op "!" | .op "-" | .op "+" => true
  | _ => false

/-- Whether a token may start the operand of a concatenation, where `-`, `+` and `!` are the
binary operators after an operand. -/
def Token.continuesConcat : Token → Bool
  | .number _ | .string _ | .regex _ | .name _ | .funcName _ | .builtinName _ | .lparen => true
  | .op "$" | .op "++" | .op "--" => true
  | _ => false

/-- Skip newlines. -/
def skipNewlines : Nat → ParseM Unit
  | 0 => pure ()
  | fuel + 1 => do
    if (← peek).isNewline then
      advance
      skipNewlines fuel

/-- Skip newlines and semicolons. -/
def skipTerminators : Nat → ParseM Unit
  | 0 => pure ()
  | fuel + 1 => do
    match ← peek with
    | .newline | .semi =>
      advance
      skipTerminators fuel
    | _ => pure ()

/-- Take a token that must come. -/
def expect (pred : Token → Bool) : ParseM Unit := do
  if pred (← peek) then advance else failHere

/-- Whether an expression can be assigned to. -/
def Expr.isLvalue : Expr → Bool
  | .var _ | .field _ | .elem _ _ => true
  | .group e => e.isLvalue
  | _ => false

/-- The assignment operators and the operator each applies. -/
def assignOp? (t : Token) : Option (Option BinOp) :=
  match t with
  | .op "=" => some none
  | .op "+=" => some (some .add)
  | .op "-=" => some (some .sub)
  | .op "*=" => some (some .mul)
  | .op "/=" => some (some .div)
  | .op "%=" => some (some .mod)
  | .op "^=" => some (some .pow)
  | _ => none

/-- The comparison operators. -/
def compareOp? (t : Token) (noGt : Bool) : Option BinOp :=
  match t with
  | .op "<" => some .lt
  | .op "<=" => some .le
  | .op "==" => some .eq
  | .op "!=" => some .ne
  | .op ">=" => some .ge
  | .op ">" => if noGt then none else some .gt
  | _ => none

/-- The position of the `)` that closes the `(` at the position reached. -/
def closingParen (toks : Array Lexed) (start : Nat) : Option Nat :=
  let rec go : Nat → Nat → Nat → Option Nat
    | 0, _, _ => none
    | fuel + 1, i, depth =>
      match (toks.getD i { tok := .eof, line := 0 }).tok with
      | .eof => none
      | .lparen => go fuel (i + 1) (depth + 1)
      | .rparen => if depth == 1 then some i else go fuel (i + 1) (depth - 1)
      | _ => go fuel (i + 1) depth
  go (toks.size + 1) start 0

mutual
/-- An expression, assignments included. -/
def expr (fuel : Nat) (noGt : Bool) : ParseM Expr :=
  match fuel with
  | 0 => failHere
  | fuel + 1 => do
    let lhs ← ternary fuel noGt
    match assignOp? (← peek) with
    | some op =>
      if lhs.isLvalue then
        advance
        skipNewlines fuel
        let rhs ← expr fuel noGt
        pure (.assign op lhs rhs)
      else pure lhs
    | none => pure lhs

/-- `c ? a : b`. -/
def ternary (fuel : Nat) (noGt : Bool) : ParseM Expr :=
  match fuel with
  | 0 => failHere
  | fuel + 1 => do
    let c ← orExpr fuel noGt
    if (← peek).isOp "?" then
      advance
      skipNewlines fuel
      let a ← expr fuel noGt
      skipNewlines fuel
      expect (·.isOp ":")
      skipNewlines fuel
      let b ← expr fuel noGt
      pure (.cond c a b)
    else pure c

/-- `a || b`. -/
def orExpr (fuel : Nat) (noGt : Bool) : ParseM Expr :=
  match fuel with
  | 0 => failHere
  | fuel + 1 => do
    let a ← andExpr fuel noGt
    orTail fuel noGt a

/-- The `|| b` parts. -/
def orTail (fuel : Nat) (noGt : Bool) (a : Expr) : ParseM Expr :=
  match fuel with
  | 0 => failHere
  | fuel + 1 => do
    if (← peek).isOp "||" then
      advance
      skipNewlines fuel
      let b ← andExpr fuel noGt
      orTail fuel noGt (.or a b)
    else pure a

/-- `a && b`. -/
def andExpr (fuel : Nat) (noGt : Bool) : ParseM Expr :=
  match fuel with
  | 0 => failHere
  | fuel + 1 => do
    let a ← inExpr fuel noGt
    andTail fuel noGt a

/-- The `&& b` parts. -/
def andTail (fuel : Nat) (noGt : Bool) (a : Expr) : ParseM Expr :=
  match fuel with
  | 0 => failHere
  | fuel + 1 => do
    if (← peek).isOp "&&" then
      advance
      skipNewlines fuel
      let b ← inExpr fuel noGt
      andTail fuel noGt (.and a b)
    else pure a

/-- `a in array`. -/
def inExpr (fuel : Nat) (noGt : Bool) : ParseM Expr :=
  match fuel with
  | 0 => failHere
  | fuel + 1 => do
    let a ← matchExpr fuel noGt
    inTail fuel a

/-- The `in array` parts. -/
def inTail (fuel : Nat) (a : Expr) : ParseM Expr :=
  match fuel with
  | 0 => failHere
  | fuel + 1 => do
    if (← peek).isKeyword "in" then
      match ← peekAt 1 with
      | .name arr =>
        advance
        advance
        inTail fuel (.member [a] arr)
      | _ => pure a
    else pure a

/-- `s ~ re` and `s !~ re`. -/
def matchExpr (fuel : Nat) (noGt : Bool) : ParseM Expr :=
  match fuel with
  | 0 => failHere
  | fuel + 1 => do
    let a ← relational fuel noGt
    matchTail fuel noGt a

/-- The `~ re` parts. -/
def matchTail (fuel : Nat) (noGt : Bool) (a : Expr) : ParseM Expr :=
  match fuel with
  | 0 => failHere
  | fuel + 1 => do
    let t ← peek
    if t.isOp "~" || t.isOp "!~" then
      advance
      let b ← relational fuel noGt
      matchTail fuel noGt (.matches (t.isOp "!~") a b)
    else pure a

/-- Comparisons, and `command | getline`. -/
def relational (fuel : Nat) (noGt : Bool) : ParseM Expr :=
  match fuel with
  | 0 => failHere
  | fuel + 1 => do
    let a ← concatenation fuel noGt
    let a ← pipeGetline fuel a
    match compareOp? (← peek) noGt with
    | some op =>
      advance
      let b ← concatenation fuel noGt
      let b ← pipeGetline fuel b
      pure (.binary op a b)
    | none => pure a

/-- `command | getline [target]` after a command. -/
def pipeGetline (fuel : Nat) (cmd : Expr) : ParseM Expr :=
  match fuel with
  | 0 => failHere
  | fuel + 1 => do
    if (← peek).isOp "|" && (← peekAt 1).isKeyword "getline" then
      advance
      advance
      let target ← getlineTarget fuel
      pipeGetline fuel (.getline target (some cmd) true)
    else pure cmd

/-- The optional variable `getline` reads into. -/
def getlineTarget (fuel : Nat) : ParseM (Option Expr) :=
  match fuel with
  | 0 => failHere
  | fuel + 1 => do
    match ← peek with
    | .op "$" | .name _ => pure (some (← primary fuel))
    | _ => pure none

/-- Concatenation: operands side by side. -/
def concatenation (fuel : Nat) (noGt : Bool) : ParseM Expr :=
  match fuel with
  | 0 => failHere
  | fuel + 1 => do
    let a ← additive fuel noGt
    concatTail fuel noGt a

/-- The operands after the first of a concatenation. -/
def concatTail (fuel : Nat) (noGt : Bool) (a : Expr) : ParseM Expr :=
  match fuel with
  | 0 => failHere
  | fuel + 1 => do
    let t ← peek
    if t.continuesConcat && !((t.isKeyword "in")) then
      let b ← additive fuel noGt
      concatTail fuel noGt (.binary .concat a b)
    else pure a

/-- `a + b` and `a - b`. -/
def additive (fuel : Nat) (noGt : Bool) : ParseM Expr :=
  match fuel with
  | 0 => failHere
  | fuel + 1 => do
    let a ← multiplicative fuel noGt
    additiveTail fuel noGt a

/-- The `+ b` and `- b` parts. -/
def additiveTail (fuel : Nat) (noGt : Bool) (a : Expr) : ParseM Expr :=
  match fuel with
  | 0 => failHere
  | fuel + 1 => do
    let t ← peek
    if t.isOp "+" || t.isOp "-" then
      advance
      let b ← multiplicative fuel noGt
      additiveTail fuel noGt (.binary (if t.isOp "+" then .add else .sub) a b)
    else pure a

/-- `a * b`, `a / b` and `a % b`. -/
def multiplicative (fuel : Nat) (noGt : Bool) : ParseM Expr :=
  match fuel with
  | 0 => failHere
  | fuel + 1 => do
    let a ← unary fuel noGt
    multiplicativeTail fuel noGt a

/-- The `* b`, `/ b` and `% b` parts. -/
def multiplicativeTail (fuel : Nat) (noGt : Bool) (a : Expr) : ParseM Expr :=
  match fuel with
  | 0 => failHere
  | fuel + 1 => do
    let t ← peek
    let op : Option BinOp :=
      if t.isOp "*" then some .mul else if t.isOp "/" then some .div
      else if t.isOp "%" then some .mod else none
    match op with
    | some op =>
      advance
      let b ← unary fuel noGt
      multiplicativeTail fuel noGt (.binary op a b)
    | none => pure a

/-- Unary `!`, `-` and `+`. -/
def unary (fuel : Nat) (noGt : Bool) : ParseM Expr :=
  match fuel with
  | 0 => failHere
  | fuel + 1 => do
    let t ← peek
    if t.isOp "!" then
      advance
      pure (.not (← unary fuel noGt))
    else if t.isOp "-" then
      advance
      pure (.neg (← unary fuel noGt))
    else if t.isOp "+" then
      advance
      pure (.plus (← unary fuel noGt))
    else power fuel noGt

/-- `a ^ b`, from the right; the exponent may have a sign. -/
def power (fuel : Nat) (noGt : Bool) : ParseM Expr :=
  match fuel with
  | 0 => failHere
  | fuel + 1 => do
    let a ← suffixed fuel
    if (← peek).isOp "^" then
      advance
      let t ← peek
      let b ← if t.isOp "-" || t.isOp "+" || t.isOp "!" then unary fuel noGt else power fuel noGt
      pure (.binary .pow a b)
    else pure a

/-- An operand with `++` or `--` after it. -/
def suffixed (fuel : Nat) : ParseM Expr :=
  match fuel with
  | 0 => failHere
  | fuel + 1 => do
    let a ← primary fuel
    let t ← peek
    if a.isLvalue && (t.isOp "++" || t.isOp "--") then
      advance
      pure (.incr false (t.isOp "++") a)
    else pure a

/-- Expressions separated by commas. -/
def exprList (fuel : Nat) (noGt : Bool) : ParseM (List Expr) :=
  match fuel with
  | 0 => failHere
  | fuel + 1 => do
    let e ← expr fuel noGt
    if (← peek) matches .comma then
      advance
      skipNewlines fuel
      pure (e :: (← exprList fuel noGt))
    else pure [e]

/-- The arguments of a call after its `(`, through the `)`. -/
def callArgs (fuel : Nat) : ParseM (List Expr) :=
  match fuel with
  | 0 => failHere
  | fuel + 1 => do
    skipNewlines fuel
    if (← peek) matches .rparen then
      advance
      pure []
    else
      let args ← exprList fuel false
      skipNewlines fuel
      expect (· matches .rparen)
      pure args

/-- A primary expression. -/
def primary (fuel : Nat) : ParseM Expr :=
  match fuel with
  | 0 => failHere
  | fuel + 1 => do
    match ← peek with
    | .number x =>
      advance
      pure (.num x)
    | .string s =>
      advance
      pure (.str s)
    | .regex r =>
      advance
      pure (.regex r)
    | .op "$" =>
      advance
      let t ← peek
      if t.isOp "++" || t.isOp "--" then
        advance
        let target ← primary fuel
        pure (.field (.incr true (t.isOp "++") target))
      else if t.isOp "-" then
        advance
        pure (.field (.neg (← primary fuel)))
      else pure (.field (← primary fuel))
    | .op "++" | .op "--" =>
      let up := (← peek).isOp "++"
      advance
      let target ← primary fuel
      if target.isLvalue then pure (.incr true up target) else failHere
    | .op "-" =>
      advance
      pure (.neg (← unary fuel false))
    | .op "+" =>
      advance
      pure (.plus (← unary fuel false))
    | .op "!" =>
      advance
      pure (.not (← unary fuel false))
    | .lparen =>
      advance
      skipNewlines fuel
      let es ← exprList fuel false
      skipNewlines fuel
      expect (· matches .rparen)
      match es with
      | [e] => pure (.group e)
      | _ =>
        if (← peek).isKeyword "in" then
          match ← peekAt 1 with
          | .name arr =>
            advance
            advance
            pure (.member es arr)
          | _ => failHere
        else failHere
    | .funcName f =>
      advance
      expect (· matches .lparen)
      pure (.call f (← callArgs fuel))
    | .builtinName f =>
      advance
      if (← peek) matches .lparen then
        advance
        pure (.builtin f (← callArgs fuel))
      else pure (.builtin f [])
    | .name n =>
      advance
      if (← peek) matches .lbracket then
        advance
        skipNewlines fuel
        let subs ← exprList fuel false
        skipNewlines fuel
        expect (· matches .rbracket)
        pure (.elem n subs)
      else pure (.var n)
    | .keyword "getline" =>
      advance
      let target ← getlineTarget fuel
      if (← peek).isOp "<" then
        advance
        let file ← primary fuel
        pure (.getline target (some file) false)
      else pure (.getline target none false)
    | _ => failHere

/-- A simple statement: `print`, `printf`, `delete`, `exit`, `return`, `next`, `nextfile`,
`break`, `continue`, or an expression. -/
def simpleStatement (fuel : Nat) : ParseM Stmt :=
  match fuel with
  | 0 => failHere
  | fuel + 1 => do
    match ← peek with
    | .keyword "print" =>
      advance
      let args ← printArgs fuel
      pure (.print args (← redirection fuel))
    | .keyword "printf" =>
      advance
      let args ← printArgs fuel
      if args.isEmpty then failHere
      pure (.printf args (← redirection fuel))
    | .keyword "delete" =>
      advance
      match ← peek with
      | .name arr =>
        advance
        if (← peek) matches .lbracket then
          advance
          let subs ← exprList fuel false
          expect (· matches .rbracket)
          pure (.delete arr (some subs))
        else pure (.delete arr none)
      | _ => failHere
    | .keyword "exit" =>
      advance
      if (← peek).endsStatement then pure (.exit none) else pure (.exit (some (← expr fuel false)))
    | .keyword "return" =>
      advance
      if (← peek).endsStatement then pure (.ret none) else pure (.ret (some (← expr fuel false)))
    | .keyword "next" =>
      advance
      pure .next
    | .keyword "nextfile" =>
      advance
      pure .nextFile
    | .keyword "break" =>
      advance
      pure .brk
    | .keyword "continue" =>
      advance
      pure .cont
    | _ => pure (.expr (← expr fuel false))

/-- The arguments of `print` or `printf`: none, a parenthesised list, or a list where `>` is a
redirection. -/
def printArgs (fuel : Nat) : ParseM (List Expr) :=
  match fuel with
  | 0 => failHere
  | fuel + 1 => do
    let t ← peek
    if t.endsStatement || t.isOp ">" || t.isOp ">>" || t.isOp "|" then return []
    if t matches .lparen then
      let p ← get
      match closingParen p.toks p.pos with
      | some close =>
        let after := (p.toks.getD (close + 1) { tok := .eof, line := 0 }).tok
        if after.endsStatement || after.isOp ">" || after.isOp ">>" || after.isOp "|" then
          advance
          skipNewlines fuel
          let es ← exprList fuel false
          skipNewlines fuel
          expect (· matches .rparen)
          return es
      | none => pure ()
    exprList fuel true

/-- An output redirection after the arguments of `print` or `printf`. -/
def redirection (fuel : Nat) : ParseM (Option (Redirect × Expr)) :=
  match fuel with
  | 0 => failHere
  | fuel + 1 => do
    let t ← peek
    let kind : Option Redirect :=
      if t.isOp ">" then some .file else if t.isOp ">>" then some .append
      else if t.isOp "|" then some .pipe else none
    match kind with
    | some k =>
      advance
      let target ← concatenation fuel true
      pure (some (k, target))
    | none => pure none

/-- The end of a simple statement: a `;` or newline, or the `}` or end that follows. -/
def endStatement (fuel : Nat) : ParseM Unit :=
  match fuel with
  | 0 => failHere
  | _ + 1 => do
    match ← peek with
    | .newline | .semi => advance
    | .rbrace | .eof => pure ()
    | _ => failHere

/-- A statement. -/
def statement (fuel : Nat) : ParseM Stmt :=
  match fuel with
  | 0 => failHere
  | fuel + 1 => do
    match ← peek with
    | .lbrace =>
      advance
      let body ← statements fuel
      expect (· matches .rbrace)
      pure (.block body)
    | .semi =>
      advance
      pure (.block [])
    | .keyword "if" =>
      advance
      expect (· matches .lparen)
      let c ← expr fuel false
      expect (· matches .rparen)
      skipNewlines fuel
      let t ← statement fuel
      -- an `else` may come after newlines and a `;`
      let saved ← get
      skipTerminators fuel
      if (← peek).isKeyword "else" then
        advance
        skipNewlines fuel
        let e ← statement fuel
        pure (.ifElse c t (some e))
      else
        set saved
        pure (.ifElse c t none)
    | .keyword "while" =>
      advance
      expect (· matches .lparen)
      let c ← expr fuel false
      expect (· matches .rparen)
      if (← peek) matches .semi then
        advance
        pure (.whileLoop c (.block []))
      else
        skipNewlines fuel
        pure (.whileLoop c (← statement fuel))
    | .keyword "do" =>
      advance
      skipNewlines fuel
      let body ← statement fuel
      skipTerminators fuel
      if !(← peek).isKeyword "while" then failHere
      advance
      expect (· matches .lparen)
      let c ← expr fuel false
      expect (· matches .rparen)
      endStatement fuel
      pure (.doLoop body c)
    | .keyword "for" =>
      advance
      expect (· matches .lparen)
      match ← peek, ← peekAt 1, ← peekAt 2, ← peekAt 3 with
      | .name v, .keyword "in", .name arr, .rparen =>
        advance
        advance
        advance
        advance
        skipNewlines fuel
        pure (.forIn v arr (← statement fuel))
      | _, _, _, _ =>
        let init ← if (← peek) matches .semi then pure none else pure (some (← simpleStatement fuel))
        skipNewlines fuel
        expect (· matches .semi)
        skipNewlines fuel
        let c ← if (← peek) matches .semi then pure none else pure (some (← expr fuel false))
        skipNewlines fuel
        expect (· matches .semi)
        skipNewlines fuel
        let step ← if (← peek) matches .rparen then pure none else pure (some (← simpleStatement fuel))
        expect (· matches .rparen)
        if (← peek) matches .semi then
          advance
          pure (.forLoop init c step (.block []))
        else
          skipNewlines fuel
          pure (.forLoop init c step (← statement fuel))
    | _ =>
      let s ← simpleStatement fuel
      endStatement fuel
      pure s

/-- Statements up to a `}` (not taken). -/
def statements (fuel : Nat) : ParseM (List Stmt) :=
  match fuel with
  | 0 => failHere
  | fuel + 1 => do
    skipTerminators fuel
    match ← peek with
    | .rbrace | .eof => pure []
    | _ =>
      let s ← statement fuel
      pure (s :: (← statements fuel))
end

/-- An action: statements in braces. -/
def action (fuel : Nat) : ParseM (List Stmt) := do
  expect (· matches .lbrace)
  let body ← statements fuel
  expect (· matches .rbrace)
  pure body

/-- The parameters of a function, after its `(`, through the `)`. -/
def params : Nat → ParseM (List String)
  | 0 => failHere
  | fuel + 1 => do
    skipNewlines fuel
    match ← peek with
    | .rparen =>
      advance
      pure []
    | .name n =>
      advance
      skipNewlines fuel
      match ← peek with
      | .comma =>
        advance
        pure (n :: (← params fuel))
      | .rparen =>
        advance
        pure [n]
      | _ => failHere
    | _ => failHere

/-- The items and functions of a program. -/
def items : Nat → ParseM Program
  | 0 => failHere
  | fuel + 1 => do
    skipTerminators fuel
    match ← peek with
    | .eof => pure { items := [], functions := [] }
    | .keyword "function" =>
      advance
      let name ← match ← peek with
        | .name n | .funcName n =>
          advance
          pure n
        | _ => failHere
      expect (· matches .lparen)
      let ps ← params fuel
      skipNewlines fuel
      let body ← action fuel
      let rest ← items fuel
      pure { rest with functions := { name, params := ps, body } :: rest.functions }
    | t =>
      let pattern ← match t with
        | .keyword "BEGIN" =>
          advance
          pure Pattern.begin
        | .keyword "END" =>
          advance
          pure Pattern.finish
        | .lbrace => pure Pattern.always
        | _ =>
          let first ← expr fuel false
          if (← peek) matches .comma then
            advance
            skipNewlines fuel
            pure (Pattern.range first (← expr fuel false))
          else pure (Pattern.test first)
      let isSpecial := match pattern with
        | .begin | .finish => true
        | _ => false
      if isSpecial then skipNewlines fuel
      let act ← if (← peek) matches .lbrace then pure (some (← action fuel))
        else if isSpecial then failHere
        else pure none
      let rest ← items fuel
      pure { rest with items := { pattern, action := act } :: rest.items }

/-- Parse a program; the message and line of the first error. -/
def parseProgram (text : String) : Except (String × Nat) Program := do
  let toks ← lex text
  let fuel := 8 * toks.size + 16
  let (p, _) ← (items fuel).run { toks, pos := 0 }
  pure p

end Awk

end HostAgent.Shell
