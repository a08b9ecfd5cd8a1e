/-!
# `HostAgent.Shell.Getopt` — command-line options of the host's utilities

The utilities read their options the way the GNU option parser does, and report misuse in its
words:

* an argument `-abc` holds the short options `a`, `b` and `c`; an option that takes an argument
  takes the rest of the word, or the next word when the rest is empty;
* an argument `--name` names a long option, exactly or by a prefix that only one option (or
  only options meaning the same) starts with; `--name=value` gives it an argument, and a long
  option that needs one and has no `=` takes the next word;
* options and operands may be mixed, unless the program reads its options in order (then the
  first operand ends them); `--` ends the options, and `-` alone is an operand.

The messages are those the parser writes after the program's name: `unrecognized option
'--x'`, `option '--x' is ambiguous; possibilities: '--xa' '--xb'`, `option '--x' doesn't allow
an argument`, `option '--x' requires an argument`, `invalid option -- 'c'` and `option requires
an argument -- 'c'`. A program adds `Try 'name --help' for more information.` and fails.
-/

namespace HostAgent.Shell

namespace Getopt

/-- Whether an option takes an argument. -/
inductive Arg where
  /-- It takes none. -/
  | none
  /-- It needs one. -/
  | required
  /-- It may have one, attached to it. -/
  | optional
  deriving DecidableEq, Repr

/-- An option a program knows: the key the program reads it by, its letter and its long name
(either may be absent), and whether it takes an argument. -/
structure Opt where
  key : String
  short : Option Char := none
  long : Option String := none
  arg : Arg := .none
  deriving Repr

/-- The options of a program, and whether the first operand ends them. -/
structure Spec where
  opts : List Opt
  inOrder : Bool := false

/-- Options read from a command line, in order, each with its argument, and the operands. -/
structure Parsed where
  opts : List (String × Option String) := []
  operands : List String := []
  deriving Repr

namespace Parsed

/-- Whether an option was given. -/
def has (p : Parsed) (key : String) : Bool := p.opts.any (·.1 == key)

/-- The argument of the last use of an option. -/
def last? (p : Parsed) (key : String) : Option String :=
  (p.opts.reverse.find? (·.1 == key)).bind (·.2)

/-- The arguments of every use of an option, in order. -/
def all (p : Parsed) (key : String) : List String :=
  p.opts.filterMap fun (k, v) => if k == key then v else none

end Parsed

/-- Options that mean the same: the same key and the same kind of argument. -/
def sameMeaning (a b : Opt) : Bool := a.key == b.key && a.arg == b.arg

/-- The option a long name names, exactly or as an unambiguous prefix, or the message. -/
def findLong (spec : Spec) (name : String) (shown : String) : Except String Opt :=
  let named := spec.opts.filter fun o => o.long.isSome
  match named.find? (·.long == some name) with
  | some o => .ok o
  | none =>
    let candidates := named.filter fun o => (o.long.getD "").startsWith name
    match candidates with
    | [] => .error ("unrecognized option '--" ++ shown ++ "'")
    | first :: others =>
      if others.all (sameMeaning first) then .ok first
      else .error ("option '--" ++ name ++ "' is ambiguous; possibilities:" ++
        String.join (candidates.map fun o => " '--" ++ o.long.getD "" ++ "'"))

/-- Read the short options of a cluster (the letters after `-`), with the words after it;
the options read and the words left. -/
def shortCluster (spec : Spec) : List Char → List String →
    Except String (List (String × Option String) × List String)
  | [], rest => .ok ([], rest)
  | c :: more, rest =>
    match spec.opts.find? (·.short == some c) with
    | none => .error ("invalid option -- '" ++ String.singleton c ++ "'")
    | some o =>
      match o.arg with
      | .none => do
        let (opts, left) ← shortCluster spec more rest
        pure ((o.key, none) :: opts, left)
      | .optional =>
        .ok ([(o.key, if more.isEmpty then none else some (String.ofList more))], rest)
      | .required =>
        if !more.isEmpty then .ok ([(o.key, some (String.ofList more))], rest)
        else match rest with
          | value :: left => .ok ([(o.key, some value)], left)
          | [] => .error ("option requires an argument -- '" ++ String.singleton c ++ "'")

/-- Read one long option (the text after `--`), with the words after it. -/
def longOption (spec : Spec) (text : String) (rest : List String) :
    Except String ((String × Option String) × List String) := do
  let name := String.ofList (text.toList.takeWhile (· != '='))
  let attached : Option String :=
    if text.toList.contains '=' then some (String.ofList (text.toList.drop (name.length + 1)))
    else none
  let o ← findLong spec name text
  let full := o.long.getD name
  match o.arg, attached with
  | .none, some _ => throw ("option '--" ++ full ++ "' doesn't allow an argument")
  | .none, none => pure ((o.key, none), rest)
  | .optional, v => pure ((o.key, v), rest)
  | .required, some v => pure ((o.key, some v), rest)
  | .required, none =>
    match rest with
    | value :: left => pure ((o.key, some value), left)
    | [] => throw ("option '--" ++ full ++ "' requires an argument")

/-- Read a command line; the message of the first misuse. -/
def parse (spec : Spec) (args : List String) : Except String Parsed :=
  let rec go : Nat → List String → Parsed → Except String Parsed
    | 0, rest, acc => .ok { acc with operands := acc.operands ++ rest }
    | _, [], acc => .ok acc
    | fuel + 1, a :: rest, acc =>
      if a == "--" then .ok { acc with operands := acc.operands ++ rest }
      else if a.startsWith "--" then do
        let (o, left) ← longOption spec (String.ofList (a.toList.drop 2)) rest
        go fuel left { acc with opts := acc.opts ++ [o] }
      else if a.startsWith "-" && a.length > 1 then do
        let (os, left) ← shortCluster spec (a.toList.drop 1) rest
        go fuel left { acc with opts := acc.opts ++ os }
      else if spec.inOrder then .ok { acc with operands := acc.operands ++ a :: rest }
      else go fuel rest { acc with operands := acc.operands ++ [a] }
  go (args.length + 1) args {}

/-- The line a utility adds after a misuse. -/
def tryHelp (argv0 : String) : String := "Try '" ++ argv0 ++ " --help' for more information."

/-- A flag: a key with a letter and a long name. -/
def flag (key : String) (c : Char) (long : String) : Opt := { key, short := some c, long := some long }

/-- An option with an argument, with a letter and a long name. -/
def withArg (key : String) (c : Char) (long : String) : Opt :=
  { key, short := some c, long := some long, arg := .required }

/-- A long option only. -/
def longOnly (key long : String) (arg : Arg) : Opt := { key, long := some long, arg }

/-- A long flag only. -/
def longFlag (key long : String) : Opt := longOnly key long .none

/-- The options every utility knows. -/
def standard : List Opt := [longFlag "help" "help", longFlag "version" "version"]

end Getopt

end HostAgent.Shell
