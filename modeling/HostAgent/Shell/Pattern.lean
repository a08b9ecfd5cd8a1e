/-!
# `HostAgent.Shell.Pattern` — shell patterns

The patterns of `case` arms and of the `#` and `%` parameter expansions:

* `*` matches any text, `?` any one character;
* `[...]` matches one character of a set: single characters, ranges `a-z` and classes such as
  `[:digit:]` (in the C locale: only ASCII characters belong to a class, and an unknown class
  has no members), the set negated by a leading `!` or `^`; a `]` right after the opening
  bracket belongs to the set, and a `[` without a closing bracket is an ordinary character;
* a character that was quoted, or follows an unquoted backslash, matches only itself.

A pattern is read from characters marked `true` when they were quoted (`Pattern.compile`) and
matches a whole text (`Pattern.accepts`); `dropPrefix` and `dropSuffix` take the shortest or
longest matching end off a text.
-/

namespace HostAgent.Shell

/-- A member of a bracket expression. -/
inductive BracketMember where
  /-- The characters from one to another, both included. -/
  | range (lo hi : Char)
  /-- A character class, by its name. -/
  | cls (name : String)
  deriving DecidableEq, Repr

/-- Whether a character belongs to a class of the C locale. -/
def inClass (name : String) (c : Char) : Bool :=
  let n := c.toNat
  let upper := 65 ≤ n && n ≤ 90
  let lower := 97 ≤ n && n ≤ 122
  let digit := 48 ≤ n && n ≤ 57
  match name with
  | "alpha" => upper || lower
  | "digit" => digit
  | "alnum" => upper || lower || digit
  | "upper" => upper
  | "lower" => lower
  | "space" => n == 32 || (9 ≤ n && n ≤ 13)
  | "blank" => n == 32 || n == 9
  | "punct" => (33 ≤ n && n ≤ 126) && !(upper || lower || digit)
  | "print" => 32 ≤ n && n ≤ 126
  | "graph" => 33 ≤ n && n ≤ 126
  | "cntrl" => n < 32 || n == 127
  | "xdigit" => digit || (65 ≤ n && n ≤ 70) || (97 ≤ n && n ≤ 102)
  | _ => false

/-- Whether a character is a member of a bracket expression's member. -/
def BracketMember.contains (m : BracketMember) (c : Char) : Bool :=
  match m with
  | .range lo hi => lo ≤ c && c ≤ hi
  | .cls name => inClass name c

/-- One element of a pattern. -/
inductive PatternItem where
  /-- Exactly this character. -/
  | char (c : Char)
  /-- Any one character. -/
  | any
  /-- Any text, the empty one included. -/
  | star
  /-- One character in (or, `negated`, outside) the members of a bracket expression. -/
  | oneOf (negated : Bool) (members : List BracketMember)
  deriving DecidableEq, Repr

/-- A shell pattern. -/
abbrev Pattern := List PatternItem

/-- Whether a character belongs to one of some members. -/
def inMembers (members : List BracketMember) (c : Char) : Bool :=
  members.any fun m => m.contains c

namespace Pattern

/-- Whether a pattern matches the whole of a text. -/
def accepts : Pattern → List Char → Bool
  | [], s => s.isEmpty
  | .star :: p, s => (List.range (s.length + 1)).any fun k => accepts p (s.drop k)
  | .any :: p, s => match s with
    | [] => false
    | _ :: s => accepts p s
  | .char c :: p, s => match s with
    | [] => false
    | d :: s => c == d && accepts p s
  | .oneOf negated members :: p, s => match s with
    | [] => false
    | d :: s => inMembers members d != negated && accepts p s

/-- The name of a class `[:name:]` at the front of a bracket expression's text (after its
`[`), and what follows the closing `:]`. -/
def className? (cs : List (Char × Bool)) : Option (String × List (Char × Bool)) :=
  match cs with
  | (':', false) :: rest =>
    let body := rest.takeWhile fun (c, q) => !(c == ':' && !q)
    match rest.drop body.length with
    | (':', false) :: (']', false) :: after => some (String.ofList (body.map (·.1)), after)
    | _ => none
  | _ => none

/-- The members of a bracket expression, read up to its closing `]`; the members and the
characters after the `]`, or `none` when no `]` closes it. `first` is set for the first
member, where a `]` is an ordinary character. -/
def bracket : Nat → Bool → List (Char × Bool) → List BracketMember →
    Option (List BracketMember × List (Char × Bool))
  | 0, _, _, _ => none
  | _, _, [], _ => none
  | fuel + 1, first, (c, quoted) :: rest, acc =>
    if c == ']' && !quoted && !first then some (acc.reverse, rest)
    else if c == '[' && !quoted then
      match className? rest with
      | some (name, after) => bracket fuel false after (.cls name :: acc)
      | none => single fuel c rest acc
    else
      let (c, rest) := match c, quoted, rest with
        | '\\', false, (d, _) :: more => (d, more)
        | _, _, _ => (c, rest)
      single fuel c rest acc
where
  /-- A character, or a range starting with it, then the rest of the expression. -/
  single (fuel : Nat) (c : Char) (rest : List (Char × Bool)) (acc : List BracketMember) :
      Option (List BracketMember × List (Char × Bool)) :=
    match rest with
    | ('-', false) :: (hi, hq) :: more =>
      if hi == ']' && !hq then bracket fuel false rest (.range c c :: acc)
      else bracket fuel false more (.range c hi :: acc)
    | _ => bracket fuel false rest (.range c c :: acc)

/-- Read a pattern from its characters, each marked `true` when it was quoted. -/
def compileWith : Nat → List (Char × Bool) → Pattern
  | 0, _ => []
  | _, [] => []
  | fuel + 1, (c, true) :: rest => .char c :: compileWith fuel rest
  | fuel + 1, ('*', false) :: rest => .star :: compileWith fuel rest
  | fuel + 1, ('?', false) :: rest => .any :: compileWith fuel rest
  | fuel + 1, ('\\', false) :: (d, _) :: rest => .char d :: compileWith fuel rest
  | fuel + 1, ('[', false) :: rest =>
    let (negated, body) := match rest with
      | ('!', false) :: more | ('^', false) :: more => (true, more)
      | _ => (false, rest)
    match bracket (body.length + 1) true body [] with
    | some (members, after) => .oneOf negated members :: compileWith fuel after
    | none => .char '[' :: compileWith fuel rest
  | fuel + 1, (c, false) :: rest => .char c :: compileWith fuel rest

/-- Read a pattern from its characters, each marked `true` when it was quoted. -/
def compile (cs : List (Char × Bool)) : Pattern := compileWith (cs.length + 1) cs

/-- A text without its shortest (or, `longest`, its longest) beginning that the pattern
matches; the text itself when no beginning matches. -/
def dropPrefix (p : Pattern) (longest : Bool) (s : List Char) : List Char :=
  let ks := List.range (s.length + 1)
  match (if longest then ks.reverse else ks).find? (fun k => accepts p (s.take k)) with
  | some k => s.drop k
  | none => s

/-- A text without its shortest (or, `longest`, its longest) end that the pattern matches; the
text itself when no end matches. -/
def dropSuffix (p : Pattern) (longest : Bool) (s : List Char) : List Char :=
  let ks := List.range (s.length + 1)
  match (if longest then ks else ks.reverse).find? (fun k => accepts p (s.drop k)) with
  | some k => s.take k
  | none => s

end Pattern

end HostAgent.Shell
