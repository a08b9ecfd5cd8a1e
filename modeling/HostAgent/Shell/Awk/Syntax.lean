/-!
# `HostAgent.Shell.Awk.Syntax` — the syntax of awk programs

An awk program is a list of items, each a pattern with an action, and of functions. A pattern is
`BEGIN`, `END`, an expression (the action runs for the records where it is true), a range of two
expressions (from a record where the first is true through one where the second is), or nothing
(every record). An item without an action prints the record.

Expressions and statements are those of POSIX awk. Numbers are binary64 values (`Float`), and
the `group` node keeps the parentheses an expression was written in, which matter in
`print (a) > f` and `(i, j) in array`.
-/

namespace HostAgent.Shell

namespace Awk

/-- A binary operator on values. -/
inductive BinOp where
  | add | sub | mul | div | mod | pow
  | concat
  | lt | le | gt | ge | eq | ne
  deriving DecidableEq, Repr, Inhabited

/-- Where `print` and `printf` send their output: a file (truncated when first opened), a file
appended to, or the input of a command. -/
inductive Redirect where
  | file | append | pipe
  deriving DecidableEq, Repr, Inhabited

/-- An expression. -/
inductive Expr where
  /-- A number. -/
  | num (x : Float)
  /-- A string. -/
  | str (s : String)
  /-- A regular expression `/re/`; alone, it matches the record. -/
  | regex (source : String)
  /-- A variable. -/
  | var (name : String)
  /-- A field `$e`. -/
  | field (index : Expr)
  /-- An element of an array; several subscripts are joined by `SUBSEP`. -/
  | elem (array : String) (subs : List Expr)
  /-- An expression in parentheses. -/
  | group (e : Expr)
  /-- An assignment, plain or with an operator (`+=` ...). -/
  | assign (op : Option BinOp) (target : Expr) (value : Expr)
  /-- `c ? a : b`. -/
  | cond (c a b : Expr)
  /-- `a && b`. -/
  | and (a b : Expr)
  /-- `a || b`. -/
  | or (a b : Expr)
  /-- `!a`. -/
  | not (a : Expr)
  /-- A binary operator. -/
  | binary (op : BinOp) (a b : Expr)
  /-- `s ~ re` or (`negated`) `s !~ re`. -/
  | matches (negated : Bool) (subject pattern : Expr)
  /-- `-a`. -/
  | neg (a : Expr)
  /-- `+a`. -/
  | plus (a : Expr)
  /-- `++x`, `x++`, `--x`, `x--`: `before` for the prefix forms, `up` for `++`. -/
  | incr (before up : Bool) (target : Expr)
  /-- `(subs) in array`. -/
  | member (subs : List Expr) (array : String)
  /-- A call of a function of the program. -/
  | call (name : String) (args : List Expr)
  /-- A call of a built-in function. -/
  | builtin (name : String) (args : List Expr)
  /-- `getline [target]`, `getline [target] < file`, or `command | getline [target]`
  (`fromCommand`). -/
  | getline (target : Option Expr) (source : Option Expr) (fromCommand : Bool)
  deriving Inhabited

/-- A statement. -/
inductive Stmt where
  | expr (e : Expr)
  | print (args : List Expr) (dest : Option (Redirect × Expr))
  | printf (args : List Expr) (dest : Option (Redirect × Expr))
  | ifElse (c : Expr) (t : Stmt) (e : Option Stmt)
  | whileLoop (c : Expr) (body : Stmt)
  | doLoop (body : Stmt) (c : Expr)
  | forLoop (init : Option Stmt) (c : Option Expr) (step : Option Stmt) (body : Stmt)
  | forIn (var : String) (array : String) (body : Stmt)
  | block (body : List Stmt)
  | next
  | nextFile
  | exit (status : Option Expr)
  | ret (value : Option Expr)
  | brk
  | cont
  /-- `delete array[subs]`, or the whole array. -/
  | delete (array : String) (subs : Option (List Expr))
  deriving Inhabited

/-- When an item's action runs. -/
inductive Pattern where
  | begin
  | finish
  | always
  | test (e : Expr)
  | range (first last : Expr)
  deriving Inhabited

/-- A pattern and its action; no action prints the record. -/
structure Item where
  pattern : Pattern
  action : Option (List Stmt)
  deriving Inhabited

/-- A function of the program. -/
structure Function where
  name : String
  params : List String
  body : List Stmt
  deriving Inhabited

/-- A program. -/
structure Program where
  items : List Item
  functions : List Function
  deriving Inhabited

end Awk

end HostAgent.Shell
