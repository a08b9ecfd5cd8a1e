import HostAgent.Shell.Pattern

/-!
# `HostAgent.Shell.Regex` — regular expressions of the text utilities

`expr`, `grep`, `sed` and `awk` match lines against POSIX regular expressions, in two
dialects:

* **basic** (`grep`, `sed`, `expr`): `\(` `\)` group, `\{m,n\}` repeats, `*` repeats, and the
  extensions `\+`, `\?` and `\|`; `^` is an anchor only at the start of an expression or of a
  group or alternative, `$` only at their end, and a `*` with nothing before it stands for
  itself;
* **extended** (`grep -E`, `sed -E`, `awk`): `(` `)`, `{m,n}`, `+`, `?` and `|` without
  backslashes, and `^`, `$` anchors everywhere.

Both have `.`, bracket expressions with classes (`[[:digit:]]`), back references `\1`..`\9`,
and the word operators `\b`, `\B`, `\<`, `\>`, `\w`, `\W`, `\s`, `\S`.

A match is looked for at each start from the left; at the first start where the expression
matches, the longest match wins (`search`). The matcher (`step`, `steps`, `repeated`)
computes every end an expression can reach from a position, each with the groups it set, so
the longest is a maximum over a list; identical outcomes are kept once, which bounds the lists
by the positions of the subject.
-/

namespace HostAgent.Shell

namespace Regex

/-- A piece of a regular expression. -/
inductive Node where
  /-- One character. -/
  | char (c : Char)
  /-- Any character (`.`). -/
  | any
  /-- A character of a bracket expression, or (`negated`) one not in it. -/
  | oneOf (negated : Bool) (members : List BracketMember)
  /-- The start of the subject (`^`). -/
  | lineStart
  /-- The end of the subject (`$`). -/
  | lineEnd
  /-- A place between a word character and another character (`\b`), or (`false`) one that is
  not (`\B`). -/
  | wordBoundary (boundary : Bool)
  /-- The start of a word (`\<`). -/
  | wordStart
  /-- The end of a word (`\>`). -/
  | wordEnd
  /-- A group, numbered from one in the order its opening parenthesis comes; group 0 is the
  whole expression. Its alternatives are sequences. -/
  | group (index : Nat) (alternatives : List (List Node))
  /-- A piece repeated between `least` and `most` times (no bound when `none`). -/
  | repeat (body : Node) (least : Nat) (most : Option Nat)
  /-- The text a group matched (`\1`). -/
  | backref (index : Nat)
  deriving Repr, Inhabited

end Regex

/-- A compiled regular expression: the whole expression as group 0, how many groups it has, and
whether case is ignored. -/
structure Regex where
  root : Regex.Node
  groups : Nat
  icase : Bool
  /-- The length of the expression's text, which bounds the matcher's nesting. -/
  size : Nat

namespace Regex

/-- How an expression is written. -/
structure Flavor where
  /-- Extended syntax. -/
  extended : Bool := false
  /-- Ignore case. -/
  icase : Bool := false
  /-- `\n`, `\t` and the other C escapes stand for their characters. -/
  cEscapes : Bool := false
  /-- A backslash inside a bracket expression escapes the next character. -/
  bracketEscapes : Bool := false

/-- The classes a bracket expression may name. -/
def classNames : List String :=
  ["alpha", "digit", "alnum", "upper", "lower", "space", "blank", "punct", "print", "graph",
    "cntrl", "xdigit"]

/-- The character a C escape letter stands for. -/
def cEscape? (c : Char) : Option Char :=
  match c with
  | 'n' => some '\n'
  | 't' => some '\t'
  | 'r' => some '\r'
  | 'f' => some (Char.ofNat 12)
  | 'v' => some (Char.ofNat 11)
  | 'a' => some (Char.ofNat 7)
  | _ => none

/-- The members of a bracket expression after its `[` (and `^`), up to its closing `]`; the
members and the characters after the `]`. `first` is set for the first member, where `]` is an
ordinary character. -/
def bracketBody (escapes : Bool) : Nat → Bool → List Char → List BracketMember →
    Except String (List BracketMember × List Char)
  | 0, _, _, _ => .error "Unmatched [, [^, [:, [., or [="
  | _, _, [], _ => .error "Unmatched [, [^, [:, [., or [="
  | fuel + 1, first, c :: rest, acc =>
    if c == ']' && !first then .ok (acc.reverse, rest)
    else match c, rest with
      | '[', ':' :: more =>
        let name := more.takeWhile (· != ':')
        match more.drop name.length with
        | ':' :: ']' :: after =>
          if classNames.contains (String.ofList name) then
            bracketBody escapes fuel false after (.cls (String.ofList name) :: acc)
          else .error "Invalid character class name"
        | _ => .error "Unmatched [, [^, [:, [., or [="
      | '[', '=' :: x :: '=' :: ']' :: after => single fuel x after acc
      | '[', '.' :: x :: '.' :: ']' :: after => single fuel x after acc
      | '\\', d :: after =>
        if escapes then single fuel ((cEscape? d).getD d) after acc else single fuel c rest acc
      | _, _ => single fuel c rest acc
where
  /-- A character, or a range starting with it, then the rest of the expression. -/
  single (fuel : Nat) (c : Char) (rest : List Char) (acc : List BracketMember) :
      Except String (List BracketMember × List Char) :=
    match rest with
    | '-' :: hi :: more =>
      if hi == ']' then bracketBody escapes fuel false rest (.range c c :: acc)
      else
        let (hi, more) := match hi, more with
          | '\\', d :: after => if escapes then ((cEscape? d).getD d, after) else (hi, more)
          | _, _ => (hi, more)
        if hi < c then .error "Invalid range end"
        else bracketBody escapes fuel false more (.range c hi :: acc)
    | _ => bracketBody escapes fuel false rest (.range c c :: acc)

/-- A bracket expression after its `[`: the node and the characters after it. -/
def bracket (escapes : Bool) (cs : List Char) : Except String (Node × List Char) :=
  let (negated, cs) := match cs with
    | '^' :: more => (true, more)
    | _ => (false, cs)
  match bracketBody escapes (cs.length + 1) true cs [] with
  | .ok (members, rest) => .ok (.oneOf negated members, rest)
  | .error e => .error e

/-- A decimal number at the front of some characters: its value and the rest; `none` when no
digit comes first. -/
def number? (cs : List Char) : Option (Nat × List Char) :=
  let ds := cs.takeWhile Char.isDigit
  if ds.isEmpty then none
  else some (ds.foldl (fun v c => 10 * v + (c.toNat - 48)) 0, cs.drop ds.length)

/-- The bounds of an interval after its `{` (the characters after the closing brace, which is
`}` or, in basic syntax, `\}`): least, most, rest. -/
def interval (extended : Bool) (cs : List Char) : Except String (Nat × Option Nat × List Char) :=
  let close (rest : List Char) : Option (List Char) :=
    match extended, rest with
    | true, '}' :: after => some after
    | false, '\\' :: '}' :: after => some after
    | _, _ => none
  let (least, rest) := match number? cs with
    | some (n, rest) => (some n, rest)
    | none => (none, cs)
  match rest with
  | ',' :: more =>
    let (most, rest) := match number? more with
      | some (n, rest) => (some n, rest)
      | none => (none, more)
    match close rest with
    | some after =>
      let lo := least.getD 0
      if most.any (· < lo) then .error "Invalid content of \\\x7b\\\x7d"
      else .ok (lo, most, after)
    | none => .error (if rest.isEmpty then "Unmatched \\\x7b" else "Invalid content of \\\x7b\\\x7d")
  | _ =>
    match least, close rest with
    | some n, some after => .ok (n, some n, after)
    | _, _ => .error (if rest.isEmpty then "Unmatched \\\x7b" else "Invalid content of \\\x7b\\\x7d")

/-- Characters that are words: letters, digits and `_`. -/
def isWordChar (c : Char) : Bool := c.isAlphanum || c == '_'

/-- The node for `\w` (or, `negated`, `\W`). -/
def wordNode (negated : Bool) : Node := .oneOf negated [.cls "alnum", .range '_' '_']

/-- The node for `\s` (or, `negated`, `\S`). -/
def spaceNode (negated : Bool) : Node := .oneOf negated [.cls "space"]

/-- What the parser has read so far: the characters left and the groups opened. -/
structure Reading where
  rest : List Char
  groups : Nat

/-- Whether the characters left start a closing of the current alternative: the end, an
alternation bar, or (inside a group) the group's end. -/
def atSeqEnd (f : Flavor) (depth : Nat) (cs : List Char) : Bool :=
  match f.extended, cs with
  | _, [] => true
  | true, '|' :: _ => true
  | true, ')' :: _ => depth > 0
  | false, '\\' :: '|' :: _ => true
  | false, '\\' :: ')' :: _ => depth > 0
  | _, _ => false

/-- Whether the characters left start a repetition suffix. -/
def repetitionAhead (f : Flavor) (cs : List Char) : Bool :=
  match f.extended, cs with
  | _, '*' :: _ => true
  | true, '+' :: _ | true, '?' :: _ | true, '{' :: _ => true
  | false, '\\' :: '+' :: _ | false, '\\' :: '?' :: _ | false, '\\' :: '{' :: _ => true
  | _, _ => false

mutual
/-- Alternatives separated by `|` (`\|`), up to the end of the expression or of the group. -/
def parseAlternatives (f : Flavor) (fuel depth : Nat) (r : Reading) :
    Except String (List (List Node) × Reading) :=
  match fuel with
  | 0 => .error "Regular expression too big"
  | fuel + 1 => do
    let (seq, r) ← parseSeq f fuel depth true [] r
    match f.extended, r.rest with
    | true, '|' :: more =>
      let (alts, r) ← parseAlternatives f fuel depth { r with rest := more }
      pure (seq :: alts, r)
    | false, '\\' :: '|' :: more =>
      let (alts, r) ← parseAlternatives f fuel depth { r with rest := more }
      pure (seq :: alts, r)
    | _, _ => pure ([seq], r)

/-- A sequence of pieces, each an atom with its repetitions. `start` is set at the start of the
sequence, where `^` is an anchor and `*` an ordinary character in basic syntax. -/
def parseSeq (f : Flavor) (fuel depth : Nat) (start : Bool) (acc : List Node) (r : Reading) :
    Except String (List Node × Reading) :=
  match fuel with
  | 0 => .error "Regular expression too big"
  | fuel + 1 => do
    if atSeqEnd f depth r.rest then return (acc.reverse, r)
    let (atom, r, anchorStart) ← parseAtom f fuel depth start r
    let (piece, r) ← parseRepeats f fuel atom r
    parseSeq f fuel depth anchorStart (piece :: acc) r

/-- Repetition suffixes after an atom. -/
def parseRepeats (f : Flavor) (fuel : Nat) (atom : Node) (r : Reading) :
    Except String (Node × Reading) :=
  match fuel with
  | 0 => .error "Regular expression too big"
  | fuel + 1 =>
    match f.extended, r.rest with
    | _, '*' :: more => parseRepeats f fuel (.repeat atom 0 none) { r with rest := more }
    | true, '+' :: more => parseRepeats f fuel (.repeat atom 1 none) { r with rest := more }
    | true, '?' :: more => parseRepeats f fuel (.repeat atom 0 (some 1)) { r with rest := more }
    | false, '\\' :: '+' :: more => parseRepeats f fuel (.repeat atom 1 none) { r with rest := more }
    | false, '\\' :: '?' :: more =>
      parseRepeats f fuel (.repeat atom 0 (some 1)) { r with rest := more }
    | true, '{' :: more =>
      match interval true more with
      | .ok (lo, hi, after) => parseRepeats f fuel (.repeat atom lo hi) { r with rest := after }
      | .error e => if (number? more).isNone then .ok (atom, r) else .error e
    | false, '\\' :: '{' :: more => do
      let (lo, hi, after) ← interval false more
      parseRepeats f fuel (.repeat atom lo hi) { r with rest := after }
    | _, _ => .ok (atom, r)

/-- One atom; also whether the next atom is still at the start of the sequence (after a `^`
anchor). -/
def parseAtom (f : Flavor) (fuel depth : Nat) (start : Bool) (r : Reading) :
    Except String (Node × Reading × Bool) :=
  match fuel with
  | 0 => .error "Regular expression too big"
  | fuel + 1 =>
    let lit (c : Char) (rest : List Char) : Except String (Node × Reading × Bool) :=
      .ok (.char c, { r with rest }, false)
    match r.rest with
    | [] => .error "Regular expression too big"
    | c :: rest =>
      match c with
      | '.' => .ok (.any, { r with rest }, false)
      | '[' => do
        let (node, rest) ← bracket f.bracketEscapes rest
        pure (node, { r with rest }, false)
      | '^' =>
        if f.extended || start then .ok (.lineStart, { r with rest }, start)
        else lit c rest
      | '$' =>
        if f.extended || atSeqEnd f depth rest then .ok (.lineEnd, { r with rest }, false)
        else lit c rest
      | '*' =>
        if start then lit c rest
        else .error "Invalid preceding regular expression"
      | '(' =>
        if f.extended then openGroup f fuel depth r.groups rest
        else lit c rest
      | ')' => lit c rest
      | '+' | '?' =>
        if f.extended && start then lit c rest
        else if f.extended then .error "Invalid preceding regular expression"
        else lit c rest
      | '{' =>
        if f.extended && start then lit c rest
        else lit c rest
      | '|' => lit c rest
      | '\\' =>
        match rest with
        | [] => .error "Trailing backslash"
        | d :: more =>
          match d with
          | '(' => if f.extended then lit d more else openGroup f fuel depth r.groups more
          | ')' => if f.extended then lit d more else .error "Unmatched ) or \\)"
          | '{' => if f.extended then lit d more else .error "Invalid preceding regular expression"
          | '1' | '2' | '3' | '4' | '5' | '6' | '7' | '8' | '9' =>
            let n := d.toNat - 48
            if n > r.groups then .error "Invalid back reference"
            else .ok (.backref n, { r with rest := more }, false)
          | 'w' => .ok (wordNode false, { r with rest := more }, false)
          | 'W' => .ok (wordNode true, { r with rest := more }, false)
          | 's' => .ok (spaceNode false, { r with rest := more }, false)
          | 'S' => .ok (spaceNode true, { r with rest := more }, false)
          | 'b' => .ok (.wordBoundary true, { r with rest := more }, false)
          | 'B' => .ok (.wordBoundary false, { r with rest := more }, false)
          | '<' => .ok (.wordStart, { r with rest := more }, false)
          | '>' => .ok (.wordEnd, { r with rest := more }, false)
          | '`' => .ok (.lineStart, { r with rest := more }, false)
          | '\'' => .ok (.lineEnd, { r with rest := more }, false)
          | _ =>
            if f.cEscapes then lit ((cEscape? d).getD d) more else lit d more
      | _ => lit c rest

/-- A group after its opening parenthesis. -/
def openGroup (f : Flavor) (fuel depth groups : Nat) (rest : List Char) :
    Except String (Node × Reading × Bool) :=
  match fuel with
  | 0 => .error "Regular expression too big"
  | fuel + 1 => do
    let index := groups + 1
    let (alts, r2) ← parseAlternatives f fuel (depth + 1) { rest, groups := index }
    match f.extended, r2.rest with
    | true, ')' :: after => pure (.group index alts, { r2 with rest := after }, false)
    | false, '\\' :: ')' :: after => pure (.group index alts, { r2 with rest := after }, false)
    | _, _ => .error "Unmatched ( or \\("
end

/-! ## Matching -/

/-- The spans the groups of a match set, by index. -/
abbrev Captures := Array (Option (Nat × Nat))

/-- What an expression is matched against: its characters and whether case is ignored. -/
structure Subject where
  text : Array Char
  icase : Bool

/-- Whether two characters are the same, maybe ignoring case. -/
def sameChar (icase : Bool) (a b : Char) : Bool := a == b || (icase && a.toLower == b.toLower)

/-- Whether a character is in a bracket expression's members, maybe ignoring case. -/
def hits (icase : Bool) (members : List BracketMember) (c : Char) : Bool :=
  inMembers members c || (icase && (inMembers members c.toLower || inMembers members c.toUpper))

/-- Whether the characters at `pos` repeat those from `a` to `b`. -/
def repeatsAt (sb : Subject) (a b pos : Nat) : Bool :=
  pos + (b - a) ≤ sb.text.size &&
    (List.range (b - a)).all fun i =>
      sameChar sb.icase (sb.text.getD (a + i) ' ') (sb.text.getD (pos + i) ' ')

/-- Outcomes kept once each. -/
def distinct (outcomes : List (Nat × Captures)) : List (Nat × Captures) := outcomes.eraseDups

mutual
/-- Every way a node matches at `pos`: the end and the groups after it, the preferred first. -/
def step (sb : Subject) (fuel : Nat) (n : Node) (pos : Nat) (caps : Captures) :
    List (Nat × Captures) :=
  match fuel with
  | 0 => []
  | fuel + 1 =>
    let here := sb.text[pos]?
    let wordBefore := pos > 0 && (sb.text[pos - 1]?).any isWordChar
    let wordAfter := here.any isWordChar
    match n with
    | .char c => if here.any (sameChar sb.icase c) then [(pos + 1, caps)] else []
    | .any => if here.isSome then [(pos + 1, caps)] else []
    | .oneOf negated ms =>
      match here with
      | some c => if hits sb.icase ms c != negated then [(pos + 1, caps)] else []
      | none => []
    | .lineStart => if pos == 0 then [(pos, caps)] else []
    | .lineEnd => if pos == sb.text.size then [(pos, caps)] else []
    | .wordBoundary b => if (wordBefore != wordAfter) == b then [(pos, caps)] else []
    | .wordStart => if !wordBefore && wordAfter then [(pos, caps)] else []
    | .wordEnd => if wordBefore && !wordAfter then [(pos, caps)] else []
    | .group i alts =>
      (alternatives sb fuel alts pos caps).map fun (e, c) => (e, c.set! i (some (pos, e)))
    | .repeat body lo hi => repeated sb fuel body lo hi pos caps
    | .backref i =>
      match caps[i]? with
      | some (some (a, b)) => if repeatsAt sb a b pos then [(pos + (b - a), caps)] else []
      | _ => []

/-- Every way one of some alternatives matches at `pos`. -/
def alternatives (sb : Subject) (fuel : Nat) (alts : List (List Node)) (pos : Nat)
    (caps : Captures) : List (Nat × Captures) :=
  match fuel, alts with
  | 0, _ => []
  | _, [] => []
  | fuel + 1, seq :: more => steps sb fuel seq pos caps ++ alternatives sb fuel more pos caps

/-- Every way a sequence matches at `pos`. -/
def steps (sb : Subject) (fuel : Nat) (ns : List Node) (pos : Nat) (caps : Captures) :
    List (Nat × Captures) :=
  match fuel, ns with
  | 0, _ => []
  | _, [] => [(pos, caps)]
  | fuel + 1, n :: rest =>
    distinct ((distinct (step sb fuel n pos caps)).flatMap fun (p, c) => steps sb fuel rest p c)

/-- Every way a node repeated between `least` and `most` times matches at `pos`, more
repetitions first. A repetition that matches nothing ends the repeating. -/
def repeated (sb : Subject) (fuel : Nat) (body : Node) (least : Nat) (most : Option Nat)
    (pos : Nat) (caps : Captures) : List (Nat × Captures) :=
  match fuel with
  | 0 => []
  | fuel + 1 =>
    let more := if most == some 0 then [] else
      (distinct (step sb fuel body pos caps)).flatMap fun (p, c) =>
        if p == pos then [(p, c)]
        else repeated sb fuel body (least - 1) (most.map (· - 1)) p c
    let stop := if least == 0 then [(pos, caps)] else []
    distinct (more ++ stop)
end

/-- Compile an expression. -/
def compile (f : Flavor) (text : String) : Except String Regex := do
  let (alts, r) ← parseAlternatives f (4 * text.length + 8) 0 { rest := text.toList, groups := 0 }
  match r.rest with
  | [] => pure { root := .group 0 alts, groups := r.groups, icase := f.icase, size := text.length }
  | _ => throw "Unmatched ) or \\)"

/-- The longest match starting at `start`: its end and the groups it set. -/
def matchAt (re : Regex) (text : Array Char) (start : Nat) : Option (Nat × Captures) :=
  let sb : Subject := { text, icase := re.icase }
  let fuel := 4 * (re.size + 2) * (text.size + 2)
  let caps : Captures := Array.replicate (re.groups + 1) none
  match step sb fuel re.root start caps with
  | [] => none
  | first :: more =>
    some (more.foldl (fun best o => if o.1 > best.1 then o else best) first)

/-- The first match at or after `start`: where it starts, where it ends and the groups it
set. -/
def search (re : Regex) (text : Array Char) (start : Nat) : Option (Nat × Nat × Captures) :=
  let rec go : Nat → Nat → Option (Nat × Nat × Captures)
    | 0, _ => none
    | fuel + 1, s =>
      match re.matchAt text s with
      | some (e, c) => some (s, e, c)
      | none => if s < text.size then go fuel (s + 1) else none
  go (text.size + 2) start

/-- Every end of a match starting at `start`, each with the groups it set, the preferred first. -/
def matchesAt (re : Regex) (text : Array Char) (start : Nat) : List (Nat × Captures) :=
  let sb : Subject := { text, icase := re.icase }
  let fuel := 4 * (re.size + 2) * (text.size + 2)
  step sb fuel re.root start (Array.replicate (re.groups + 1) none)

/-- The first match, from the left, whose span satisfies a condition: its start, its end and the
groups it set; of the spans from one start, the longest that satisfies it. -/
def searchWhere (re : Regex) (text : Array Char) (start : Nat) (ok : Nat → Nat → Bool) :
    Option (Nat × Nat × Captures) :=
  let rec go : Nat → Nat → Option (Nat × Nat × Captures)
    | 0, _ => none
    | fuel + 1, s =>
      let good := (re.matchesAt text s).filter fun (e, _) => ok s e
      match good with
      | first :: more =>
        let (e, c) := more.foldl (fun best o => if o.1 > best.1 then o else best) first
        some (s, e, c)
      | [] => if s < text.size then go fuel (s + 1) else none
  go (text.size + 2) start

/-- Whether an expression matches somewhere in a text. -/
def test (re : Regex) (text : String) : Bool := (re.search text.toList.toArray 0).isSome

/-- The text a group matched, empty when it matched nothing. -/
def captured (text : Array Char) (caps : Captures) (i : Nat) : String :=
  match caps[i]? with
  | some (some (a, b)) => String.ofList ((text.extract a b).toList)
  | _ => ""

end Regex

end HostAgent.Shell
