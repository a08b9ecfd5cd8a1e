/-!
# `HostAgent.Shell.Syntax` — the command language of collector scripts

Collectors are scripts for the POSIX shell. This module gives the abstract syntax of the part of
that language a collector may use:

* a `Word` is a list of `Piece`s: literal text (unquoted, or quoted so that it matches only
  itself in a pattern), a parameter (`$x`, `$1`, `$#`, `$@`, `$$`, `$?`, `$0`), its length
  `${#x}`, a parameter with a default, an alternative, an error or an end removed
  (`${x:-w}`, `${x#p}`, ...), a command substitution `$(...)` or an arithmetic
  expansion `$((...))`; an expansion remembers whether it stood inside double quotes, because
  only unquoted expansions are split into fields;
* a `Command` is a simple command (assignments, words, redirections, and its line number for
  diagnostics), a conditional, a `while`/`until` loop, a `for` loop, a `case`, a group or a
  function definition;
* a `Pipeline` joins commands with `|`, a `Chain` joins pipelines with `&&` and `||` (and may
  run in the background), and a `Script` is a sequence of chains.
-/

namespace HostAgent.Shell

/-- A redirection operator. -/
inductive RedirectKind where
  /-- `>`: write, creating or truncating; refused for an existing file under `set -C`. -/
  | write
  /-- `>|`: write, creating or truncating, also under `set -C`. -/
  | clobber
  /-- `>>`: append, creating. -/
  | append
  /-- `<`: read. -/
  | read
  /-- `<>`: read and write, creating, without truncating. -/
  | readWrite
  /-- `>&` and `<&`: make the descriptor a copy of another one, or close it with `-`. -/
  | duplicate
  /-- `<<`: read a here-document, the redirection's target being its text. -/
  | here
  deriving DecidableEq, Repr

/-- What a braced parameter expansion does with the parameter. -/
inductive Modifier where
  /-- `-`: the word when the parameter is unset. -/
  | orDefault
  /-- `=`: the word, also assigned, when the parameter is unset. -/
  | orAssign
  /-- `+`: the word when the parameter is set, nothing otherwise. -/
  | ifSet
  /-- `?`: an error, with the word as its message, when the parameter is unset. -/
  | orError
  /-- `#` and `##`: the value without the shortest or longest beginning matching the word. -/
  | dropPrefix (longest : Bool)
  /-- `%` and `%%`: the value without the shortest or longest end matching the word. -/
  | dropSuffix (longest : Bool)
  deriving DecidableEq, Repr

mutual
/-- One piece of a word. -/
inductive Piece where
  /-- Unquoted text taken as it stands. -/
  | lit (text : String)
  /-- Quoted text, or a character after a backslash: it stands for itself, also in patterns. -/
  | quoted (text : String)
  /-- A parameter expansion; `quoted` when it stood inside double quotes. -/
  | param (name : String) (quoted : Bool)
  /-- The length of a parameter's value. -/
  | length (name : String) (quoted : Bool)
  /-- A parameter with a modifier and its word; with `colon`, an empty value counts as unset. -/
  | modified (name : String) (m : Modifier) (colon : Bool) (word : List Piece) (quoted : Bool)
  /-- A command substitution; `quoted` when it stood inside double quotes. -/
  | capture (body : Script) (quoted : Bool)
  /-- An arithmetic expansion, its text made of the pieces. -/
  | arith (expr : List Piece) (quoted : Bool)

/-- A redirection of a file descriptor. -/
inductive Redirect where
  | mk (fd : Nat) (kind : RedirectKind) (target : List Piece)

/-- A command. -/
inductive Command where
  /-- Assignments, the words of the command and its redirections, at a line of the script. -/
  | simple (line : Nat) (assigns : List (String × List Piece)) (words : List (List Piece))
      (redirects : List Redirect)
  /-- `if c then b elif ... else e fi`: the tested arms in order and the last branch. -/
  | conditional (arms : List (Script × Script)) (otherwise : Option Script)
      (redirects : List Redirect)
  /-- `while c do b done`, or `until c do b done` when `negated`. -/
  | loop (negated : Bool) (cond body : Script) (redirects : List Redirect)
  /-- `for v in w... do b done`; without `in` the loop runs over the positional parameters. -/
  | forEach (var : String) (items : Option (List (List Piece))) (body : Script)
      (redirects : List Redirect)
  /-- `case w in p1 | p2) b ;; ... esac`: the subject and the arms, each with its patterns. -/
  | choice (subject : List Piece) (arms : List (List (List Piece) × Script))
      (redirects : List Redirect)
  /-- `{ b; }`, or `( b )` when `subshell`. -/
  | group (body : Script) (subshell : Bool) (redirects : List Redirect)
  /-- `name () body`: a function definition. -/
  | function (name : String) (body : Command)

/-- Commands joined by `|`, the status negated with a leading `!`. -/
inductive Pipeline where
  | mk (negated : Bool) (stages : List Command)

/-- Pipelines joined by `&&` (`true`) and `||` (`false`); `async` when it ends in `&` and
runs in the background. -/
inductive Chain where
  | mk (first : Pipeline) (rest : List (Bool × Pipeline)) (async : Bool)

/-- Chains run one after the other. -/
inductive Script where
  | mk (chains : List Chain)
end

/-- A word: pieces written next to each other. -/
abbrev Word := List Piece

mutual
/-- A piece as it reads inside double quotes: its expansions are not split into fields. -/
def Piece.asQuoted : Piece → Piece
  | .param n _ => .param n true
  | .length n _ => .length n true
  | .modified n m colon w _ => .modified n m colon (Piece.allQuoted w) true
  | .capture b _ => .capture b true
  | .arith e _ => .arith e true
  | other => other

/-- Pieces as they read inside double quotes. -/
def Piece.allQuoted : List Piece → List Piece
  | [] => []
  | p :: ps => p.asQuoted :: Piece.allQuoted ps
end

/-- Whether a piece stands for itself in a pattern: quoted text, or an expansion inside double
quotes. -/
def Piece.isQuoted : Piece → Bool
  | .lit _ => false
  | .quoted _ => true
  | .param _ q | .length _ q | .modified _ _ _ _ q | .capture _ q | .arith _ q => q

/-- The empty script. -/
def Script.empty : Script := .mk []

end HostAgent.Shell
