/-!
# `HostAgent.Shell.Arith` — arithmetic expansion

The expressions of `$((...))`, over signed 64-bit integers as the shell computes them:

* numbers are decimal, octal with a leading `0`, or hexadecimal with `0x`; a variable stands
  for its value read the same way (unset or empty is `0`, anything else is an
  `Illegal number`);
* the operators are those of C without increment and decrement: unary `+ - ! ~`, then
  `* / %`, `+ -`, `<< >>`, `< <= > >=`, `== !=`, `&`, `^`, `|`, `&&`, `||`, `?:`, and the
  assignments `=` and `op=` to a variable;
* `&&`, `||` and `?:` evaluate only the operand they need, so an assignment or a division in the
  other one has no effect.

An expression is read into an `ArithExpr` first and evaluated after; both steps fail with the
shell's messages (`expecting primary`, `expecting EOF`, `division by zero`, ...), except the
division of the smallest integer by `-1`, which the processor refuses and which kills the
shell with `SIGFPE`.
-/

namespace HostAgent.Shell

/-- A token of an arithmetic expression. -/
inductive ArithToken where
  | num (n : Int64)
  | var (name : String)
  | op (text : String)
  | lparen
  | rparen
  /-- A character that starts no token; nothing after it is read. -/
  | bad
  deriving DecidableEq, Repr

/-- An arithmetic expression. -/
inductive ArithExpr where
  | num (n : Int64)
  | var (name : String)
  /-- A unary operator: `-`, `!` or `~`. -/
  | unary (op : String) (e : ArithExpr)
  /-- A binary operator other than `&&` and `||`. -/
  | binary (op : String) (a b : ArithExpr)
  | and (a b : ArithExpr)
  | or (a b : ArithExpr)
  | cond (c a b : ArithExpr)
  /-- `name = e`, or `name op= e` for a binary `op`. -/
  | assign (name : String) (op : Option String) (e : ArithExpr)
  deriving Repr

namespace Arith

/-- The value of a digit in a base, if it is one. -/
def digitValue (base : Nat) (c : Char) : Option Nat :=
  let v := if c.isDigit then some (c.toNat - 48)
    else if 'a' ≤ c && c ≤ 'f' then some (c.toNat - 87)
    else if 'A' ≤ c && c ≤ 'F' then some (c.toNat - 55)
    else none
  match v with
  | some d => if d < base then some d else none
  | none => none

/-- The largest signed 64-bit integer. -/
def maxInt64 : Nat := 9223372036854775807

/-- Read the digits of a number in a base: its value and the characters after it. -/
def digits (base : Nat) (cs : List Char) : Nat × List Char :=
  let ds := cs.takeWhile fun c => (digitValue base c).isSome
  (ds.foldl (fun v c => base * v + (digitValue base c).getD 0) 0, cs.drop ds.length)

/-- Read an unsigned number the way the C library does with base `0`: `0x` and hexadecimal
digits, `0` and octal digits, or decimal digits; `none` when no digit starts it. -/
def number (cs : List Char) : Option (Nat × List Char) :=
  match cs with
  | '0' :: x :: h :: rest =>
    if (x == 'x' || x == 'X') && (digitValue 16 h).isSome then some (digits 16 (h :: rest))
    else some (digits 8 cs)
  | '0' :: _ => some (digits 8 cs)
  | c :: _ => if c.isDigit then some (digits 10 cs) else none
  | [] => none

/-- A number as a 64-bit integer, too large ones kept at the largest. -/
def clamp (negative : Bool) (n : Nat) : Int64 :=
  if negative then Int64.ofInt (-(Int.ofNat (min n (maxInt64 + 1))))
  else Int64.ofInt (Int.ofNat (min n maxInt64))

/-- The value of a variable's text: blanks around an optionally signed number; the empty text
is `0`. A text that is not a number, or one out of range, is refused. -/
def textValue (text : String) : Except String Int64 :=
  let isBlank (c : Char) : Bool := c == ' ' || c == '\t' || c == '\n'
  let cs := text.toList.dropWhile isBlank
  let (negative, body) := match cs with
    | '-' :: more => (true, more)
    | '+' :: more => (false, more)
    | _ => (false, cs)
  let refuse : Except String Int64 := .error ("Illegal number: " ++ text)
  if cs.isEmpty then .ok 0
  else match number body with
    | some (n, rest) =>
      if !(rest.all isBlank) then refuse
      else if n > maxInt64 + (if negative then 1 else 0) then refuse
      else .ok (clamp negative n)
    | none => refuse

/-- The operators, longest first. -/
def operators : List String :=
  ["<<=", ">>=", "<<", ">>", "<=", ">=", "==", "!=", "&&", "||", "+=", "-=", "*=", "/=", "%=",
    "&=", "|=", "^=", "<", ">", "=", "+", "-", "*", "/", "%", "&", "|", "^", "!", "~", "?", ":"]

/-- The tokens of an expression, up to its end or a character that starts no token. -/
def tokenize : Nat → List Char → List ArithToken
  | 0, _ => []
  | _, [] => []
  | fuel + 1, c :: rest =>
    if c == ' ' || c == '\t' || c == '\n' then tokenize fuel rest
    else if c == '(' then .lparen :: tokenize fuel rest
    else if c == ')' then .rparen :: tokenize fuel rest
    else if c.isDigit then
      match number (c :: rest) with
      | some (n, after) => .num (clamp false n) :: tokenize fuel after
      | none => [.bad]
    else if c.isAlpha || c == '_' then
      let tail := rest.takeWhile fun d => d.isAlphanum || d == '_'
      .var (String.ofList (c :: tail)) :: tokenize fuel (rest.drop tail.length)
    else
      match operators.find? fun o => (c :: rest).take o.length == o.toList with
      | some o => .op o :: tokenize fuel ((c :: rest).drop o.length)
      | none => [.bad]

/-- The binding strength of a binary operator other than `&&` and `||`. -/
def precedence : String → Option Nat
  | "*" | "/" | "%" => some 10
  | "+" | "-" => some 9
  | "<<" | ">>" => some 8
  | "<" | "<=" | ">" | ">=" => some 7
  | "==" | "!=" => some 6
  | "&" => some 5
  | "^" => some 4
  | "|" => some 3
  | _ => none

/-- The assignment operators, each with the binary operator it applies. -/
def assignOp : String → Option (Option String)
  | "=" => some none
  | "+=" => some (some "+")
  | "-=" => some (some "-")
  | "*=" => some (some "*")
  | "/=" => some (some "/")
  | "%=" => some (some "%")
  | "<<=" => some (some "<<")
  | ">>=" => some (some ">>")
  | "&=" => some (some "&")
  | "|=" => some (some "|")
  | "^=" => some (some "^")
  | _ => none

/-- What reading an expression gives: the expression and the tokens after it, or an error. -/
abbrev Parsed := Except String (ArithExpr × List ArithToken)

mutual
/-- An assignment to a variable, or a conditional expression. -/
def assignment (fuel : Nat) (ts : List ArithToken) : Parsed :=
  match fuel with
  | 0 => .error "expression too long"
  | fuel + 1 =>
    match ts with
    | .var n :: .op o :: rest =>
      match assignOp o with
      | some op => do
        let (e, rest) ← assignment fuel rest
        pure (.assign n op e, rest)
      | none => conditional fuel ts
    | _ => conditional fuel ts

/-- `c ? a : b`, or an expression of `||`. -/
def conditional (fuel : Nat) (ts : List ArithToken) : Parsed :=
  match fuel with
  | 0 => .error "expression too long"
  | fuel + 1 => do
    let (c, rest) ← orExpr fuel ts
    match rest with
    | .op "?" :: rest => do
      let (a, rest) ← assignment fuel rest
      match rest with
      | .op ":" :: rest => do
        let (b, rest) ← conditional fuel rest
        pure (.cond c a b, rest)
      | _ => .error "expecting ':'"
    | _ => pure (c, rest)

/-- Operands joined by `||`. -/
def orExpr (fuel : Nat) (ts : List ArithToken) : Parsed :=
  match fuel with
  | 0 => .error "expression too long"
  | fuel + 1 => do
    let (a, rest) ← andExpr fuel ts
    match rest with
    | .op "||" :: rest => do
      let (b, rest) ← orExpr fuel rest
      pure (.or a b, rest)
    | _ => pure (a, rest)

/-- Operands joined by `&&`. -/
def andExpr (fuel : Nat) (ts : List ArithToken) : Parsed :=
  match fuel with
  | 0 => .error "expression too long"
  | fuel + 1 => do
    let (a, rest) ← binary fuel 0 ts
    match rest with
    | .op "&&" :: rest => do
      let (b, rest) ← andExpr fuel rest
      pure (.and a b, rest)
    | _ => pure (a, rest)

/-- Operands joined by binary operators that bind at least as strongly as `minimum`. -/
def binary (fuel : Nat) (minimum : Nat) (ts : List ArithToken) : Parsed :=
  match fuel with
  | 0 => .error "expression too long"
  | fuel + 1 => do
    let (a, rest) ← primary fuel ts
    binaryRest fuel minimum a rest

/-- The operators and operands after a left operand. -/
def binaryRest (fuel : Nat) (minimum : Nat) (lhs : ArithExpr) (ts : List ArithToken) : Parsed :=
  match fuel with
  | 0 => .error "expression too long"
  | fuel + 1 =>
    match ts with
    | .op o :: rest =>
      match precedence o with
      | some p =>
        if p ≥ minimum then do
          let (rhs, rest) ← binary fuel (p + 1) rest
          binaryRest fuel minimum (.binary o lhs rhs) rest
        else pure (lhs, ts)
      | none => pure (lhs, ts)
    | _ => pure (lhs, ts)

/-- A number, a variable, a parenthesised expression or a unary operator and its operand. -/
def primary (fuel : Nat) (ts : List ArithToken) : Parsed :=
  match fuel with
  | 0 => .error "expression too long"
  | fuel + 1 =>
    match ts with
    | .num n :: rest => pure (.num n, rest)
    | .var n :: rest => pure (.var n, rest)
    | .lparen :: rest => do
      let (e, rest) ← assignment fuel rest
      match rest with
      | .rparen :: rest => pure (e, rest)
      | _ => .error "expecting ')'"
    | .op "+" :: rest => primary fuel rest
    | .op "-" :: rest => do
      let (e, rest) ← primary fuel rest
      pure (.unary "-" e, rest)
    | .op "!" :: rest => do
      let (e, rest) ← primary fuel rest
      pure (.unary "!" e, rest)
    | .op "~" :: rest => do
      let (e, rest) ← primary fuel rest
      pure (.unary "~" e, rest)
    | _ => .error "expecting primary"
end

/-- Read a whole expression. -/
def parse (text : String) : Except String ArithExpr := do
  let ts := tokenize (text.length + 1) text.toList
  let (e, rest) ← assignment (4 * ts.length + 8) ts
  if rest.isEmpty then pure e else throw "expecting EOF"

/-- Why an evaluation stopped: a message of the shell, or a division the processor refuses
(the smallest integer divided by `-1`), which kills the shell with `SIGFPE`. -/
inductive ArithError where
  | message (text : String)
  | divideOverflow
  deriving DecidableEq, Repr

/-- An evaluation step: it reads the shell's variables, keeps the assignments it made (latest
first), or fails. -/
abbrev Eval := ReaderT (String → Option String) (StateT (List (String × String)) (Except ArithError))

/-- Fail with a message. -/
def failWith (text : String) : Eval α := throw (.message text)

/-- The value of a variable: the last assignment made here, or the shell's value. -/
def lookup (n : String) : Eval Int64 := do
  let base ← read
  let text := match (← get).find? (·.1 == n) with
    | some (_, t) => some t
    | none => base n
  match text with
  | some t =>
    match textValue t with
    | .ok v => pure v
    | .error e => failWith e
  | none => pure 0

/-- The smallest signed 64-bit integer. -/
def minInt64 : Int64 := Int64.ofInt (-9223372036854775808)

/-- Apply a binary operator. -/
def applyBinary (op : String) (a b : Int64) : Except ArithError Int64 :=
  let truth (p : Bool) : Int64 := if p then 1 else 0
  match op with
  | "*" => .ok (a * b)
  | "/" =>
    if b == 0 then .error (.message "division by zero")
    else if a == minInt64 && b == -1 then .error .divideOverflow
    else .ok (a / b)
  | "%" =>
    if b == 0 then .error (.message "division by zero")
    else if a == minInt64 && b == -1 then .error .divideOverflow
    else .ok (a % b)
  | "+" => .ok (a + b)
  | "-" => .ok (a - b)
  | "<<" => .ok (a <<< b)
  | ">>" => .ok (a >>> b)
  | "<" => .ok (truth (a < b))
  | "<=" => .ok (truth (a ≤ b))
  | ">" => .ok (truth (a > b))
  | ">=" => .ok (truth (a ≥ b))
  | "==" => .ok (truth (a == b))
  | "!=" => .ok (truth (a != b))
  | "&" => .ok (a &&& b)
  | "^" => .ok (a ^^^ b)
  | _ => .ok (a ||| b)

/-- Lift a computed result into an evaluation step. -/
def lift (r : Except ArithError Int64) : Eval Int64 :=
  match r with
  | .ok v => pure v
  | .error e => throw e

/-- Evaluate an expression. -/
def eval : ArithExpr → Eval Int64
  | .num n => pure n
  | .var n => lookup n
  | .unary op e => do
    let v ← eval e
    pure <| match op with
      | "-" => -v
      | "!" => if v == 0 then 1 else 0
      | _ => ~~~v
  | .binary op a b => do
    let x ← eval a
    let y ← eval b
    lift (applyBinary op x y)
  | .and a b => do
    if (← eval a) == 0 then pure 0 else pure (if (← eval b) == 0 then 0 else 1)
  | .or a b => do
    if (← eval a) != 0 then pure 1 else pure (if (← eval b) == 0 then 0 else 1)
  | .cond c a b => do
    if (← eval c) != 0 then eval a else eval b
  | .assign n op e => do
    let v ← eval e
    let v ← match op with
      | none => pure v
      | some o => lift (applyBinary o (← lookup n) v)
    modify fun done => (n, toString v) :: done
    pure v

end Arith

/-- Evaluate the text of an arithmetic expansion over the shell's variables (read through
`read`): the value and the assignments made, latest first; or the shell's message, or the
division that kills the shell. -/
def arithmetic (text : String) (read : String → Option String) :
    Except Arith.ArithError (Int64 × List (String × String)) :=
  let framed (e : String) : String :=
    if e.startsWith "Illegal number" then e
    else "arithmetic expression: " ++ e ++ ": \"" ++ text ++ "\""
  match Arith.parse text with
  | .error e => .error (.message (framed e))
  | .ok expr =>
    match ((Arith.eval expr).run read).run [] with
    | .ok r => .ok r
    | .error (.message e) => .error (.message (framed e))
    | .error e => .error e

end HostAgent.Shell
