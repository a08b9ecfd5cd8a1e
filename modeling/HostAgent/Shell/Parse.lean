import HostAgent.Shell.Syntax

/-!
# `HostAgent.Shell.Parse` — reading a script

A recursive-descent reader over the characters of a script, keeping the line number for
diagnostics:

* blanks are spaces and tabs; a backslash before a newline joins two lines; `#` at the start of
  a word runs to the end of the line;
* a word ends at an unquoted blank, newline or one of `; & | < > ( )`; single quotes keep their
  text, double quotes keep theirs but expand `$` and take `\` before `$`, a backquote, `"`, `\`
  and a newline; a backslash outside quotes keeps the next character;
* `$` starts a parameter, `$\x7b...\x7d` a braced one with its operators, `$(...)` a command
  substitution and `$((...))` an arithmetic expansion;
* a word made only of unquoted text can be a reserved word (`if`, `then`, `do`, `{`, ...) when it
  stands where a command starts; a leading `name=` makes it an assignment, and `name ()` starts
  a function definition;
* `[n]>`, `[n]>>`, `[n]<`, `[n]>&` and `[n]<<` introduce redirections; the text of a
  here-document is taken from the lines after the one its redirection stands on, and those lines
  are then skipped.

Every function spends one unit of an explicit fuel; `Script.parse` gives sixteen units a
character, more than any script the grammar accepts needs.
-/

namespace HostAgent.Shell

/-- Why a script cannot be read, and on which line. -/
structure ParseError where
  line : Nat
  message : String
  deriving Repr, DecidableEq

/-- What is left to read and the line it starts on; `held` counts the lines of here-documents
taken out of the text, which the next newline steps over. -/
structure Cursor where
  rest : List Char
  line : Nat
  held : Nat := 0

/-- A reading step. -/
abbrev Reader := StateT Cursor (Except ParseError)

namespace Reader

/-- Fail at the current line. -/
def fail (message : String) : Reader α := do
  throw { line := (← get).line, message }

/-- The next character, without consuming it. -/
def peek : Reader (Option Char) := do pure (← get).rest.head?

/-- The next two characters, without consuming them. -/
def peek2 : Reader (Option Char × Option Char) := do
  let r := (← get).rest
  pure (r.head?, (r.drop 1).head?)

/-- Consume one character. -/
def advance : Reader Unit :=
  modify fun c => match c.rest with
    | '\n' :: more => { rest := more, line := c.line + 1 + c.held, held := 0 }
    | _ :: more => { c with rest := more }
    | [] => c

/-- The backquote character. -/
def backquote : Char := Char.ofNat 96

/-- A character that ends an unquoted word. -/
def isMeta (c : Char) : Bool :=
  c == ' ' || c == '\t' || c == '\n' || c == ';' || c == '&' || c == '|' || c == '<' ||
    c == '>' || c == '(' || c == ')'

/-- A character that may start a variable name. -/
def isNameStart (c : Char) : Bool := c.isAlpha || c == '_'

/-- A character that may continue a variable name. -/
def isNameChar (c : Char) : Bool := c.isAlphanum || c == '_'

/-- Whether a text is a variable name. -/
def isName (s : String) : Bool :=
  match s.toList with
  | c :: rest => isNameStart c && rest.all isNameChar
  | [] => false

/-- A chain that runs in the background. -/
def background : Chain → Chain
  | .mk first rest _ => .mk first rest true

/-- The words that open or close compound commands. -/
def reserved : List String :=
  ["if", "then", "elif", "else", "fi", "while", "until", "do", "done", "for", "in", "case",
    "esac", "\x7b", "\x7d", "!"]

/-- How a syntax error names the token at the front of a text: an operator in quotes, a
reserved word in quotes, `redirection`, `word`, `newline` or `end of file`. -/
def tokenName (rest : List Char) : String :=
  let quote (t : String) : String := "\"" ++ t ++ "\""
  let digits := rest.takeWhile Char.isDigit
  match rest.drop digits.length with
  | '<' :: _ | '>' :: _ => "redirection"
  | after =>
    if !digits.isEmpty then "word"
    else match after with
      | [] => "end of file"
      | '\n' :: _ => "newline"
      | ';' :: ';' :: _ => quote ";;"
      | ';' :: _ => quote ";"
      | '&' :: '&' :: _ => quote "&&"
      | '&' :: _ => quote "&"
      | '|' :: '|' :: _ => quote "||"
      | '|' :: _ => quote "|"
      | '(' :: _ => quote "("
      | ')' :: _ => quote ")"
      | c :: _ =>
        if c == backquote then quote (String.singleton c)
        else
          let w := String.ofList (after.takeWhile fun ch => !isMeta ch)
          if reserved.contains w then quote w else "word"

/-- Fail naming the token at the cursor as unexpected. -/
def unexpected : Reader α := do
  fail ("Syntax error: " ++ tokenName (← get).rest ++ " unexpected")

/-- Skip blanks, joined lines and a comment, up to (not over) a newline. -/
def skipBlanks : Nat → Reader Unit
  | 0 => pure ()
  | fuel + 1 => do
    match ← peek2 with
    | (some ' ', _) | (some '\t', _) => advance; skipBlanks fuel
    | (some '\\', some '\n') => advance; advance; skipBlanks fuel
    | (some '#', _) =>
      let rec toEnd : Nat → Reader Unit
        | 0 => pure ()
        | n + 1 => do
          match ← peek with
          | some '\n' | none => pure ()
          | some _ => advance; toEnd n
      toEnd fuel
    | _ => pure ()

/-- Skip blanks, comments and newlines. -/
def skipLines : Nat → Reader Unit
  | 0 => pure ()
  | fuel + 1 => do
    skipBlanks fuel
    if (← peek) == some '\n' then advance; skipLines fuel

/-- Read a variable name. -/
def name : Nat → List Char → Reader String
  | 0, acc => pure (String.ofList acc.reverse)
  | fuel + 1, acc => do
    match ← peek with
    | some c => if isNameChar c then advance; name fuel (c :: acc) else pure (String.ofList acc.reverse)
    | none => pure (String.ofList acc.reverse)

/-- Add literal characters to the pieces read so far (kept in reverse). -/
def pushText (acc : List Piece) (text : String) : List Piece :=
  match acc with
  | .lit t :: more => .lit (t ++ text) :: more
  | _ => .lit text :: acc

/-- The modifier a character names after a parameter in braces. -/
def modifierOf (c : Char) : Option Modifier :=
  match c with
  | '-' => some .orDefault
  | '=' => some .orAssign
  | '+' => some .ifSet
  | '?' => some .orError
  | _ => none

/-- Add quoted characters to the pieces read so far (kept in reverse). -/
def pushQuoted (acc : List Piece) (text : String) : List Piece :=
  match acc with
  | .quoted t :: more => .quoted (t ++ text) :: more
  | _ => .quoted text :: acc

/-- The lines of a here-document, from the text after the line of its redirection: the lines
before the one equal to the delimiter (leading tabs removed when `strip`), each with its
newline (the last line of the text may have none), the text after the delimiter's line, and how
many lines were taken, the delimiter's included. Without a delimiter line the document runs to
the end of the text. -/
def hereLines : Nat → Bool → List Char → List Char → List (List Char) × List Char × Nat
  | 0, _, _, rest => ([], rest, 0)
  | fuel + 1, strip, delim, rest =>
    if rest.isEmpty then ([], [], 0)
    else
      let line := rest.takeWhile (· != '\n')
      let ended := line.length < rest.length
      let more := rest.drop (line.length + 1)
      let line := if strip then line.dropWhile (· == '\t') else line
      if line == delim then ([], more, 1)
      else
        let (ls, after, n) := hereLines fuel strip delim more
        ((if ended then line ++ ['\n'] else line) :: ls, after, n + 1)

/-- A word read, with its unquoted leading text and whether all of it was unquoted text. -/
structure WordRead where
  word : Word
  plainPrefix : String
  plain : Bool

/-- Where a list of commands is read. A reserved word that ends lists is an error at the top
of a script; in a compound command it ends the list once the list holds a command; in a case
arm or a command substitution, a list that may be empty, it ends the list at once. The
construct around the list then says what it expected instead. -/
inductive ListPlace where
  | top
  | compound
  | enclosed
  deriving DecidableEq

/-- The reserved words that end a list of commands. -/
def listEnds : List String := ["do", "done", "elif", "else", "esac", "fi", "then", "\x7d"]

mutual
/-- A script up to the end of the text, a `)`, one of the reserved `stops` where a command
would start, or (as `place` says) another reserved word that ends lists. -/
def script (fuel : Nat) (place : ListPlace) (stops : List String) (acc : List Chain) : Reader Script :=
  match fuel with
  | 0 => Reader.fail "script too long"
  | fuel + 1 => do
    skipLines fuel
    let armEnd := stops.contains "esac" && (← peek2) == (some ';', some ';')
    match ← peek with
    | none => pure (.mk acc.reverse)
    | some ')' => pure (.mk acc.reverse)
    | some _ =>
      if armEnd then pure (.mk acc.reverse) else
      do
      let saved ← get
      let w ← word fuel false
      set saved
      let ends := listEnds.contains w.plainPrefix &&
        (place == .enclosed || (place == .compound && !acc.isEmpty))
      if w.plain && (stops.contains w.plainPrefix || ends) then pure (.mk acc.reverse)
      else
        let c ← chain fuel
        skipBlanks fuel
        match ← peek2 with
        | (some ';', some ';') =>
          if stops.contains "esac" then pure (.mk (c :: acc).reverse)
          else Reader.fail "Syntax error: \";;\" unexpected"
        | (some '&', _) => advance; script fuel place stops (background c :: acc)
        | (some ';', _) | (some '\n', _) =>
          advance; script fuel place stops (c :: acc)
        | _ => pure (.mk (c :: acc).reverse)

/-- A compound list that must hold a command: one ending at a reserved word or `)` before any
command is an error naming that token. At the end of the text it may be empty; what the
compound command expects next reports that. -/
def body (fuel : Nat) (stops : List String) : Reader Script :=
  match fuel with
  | 0 => Reader.fail "script too long"
  | fuel + 1 => do
    let s ← script fuel .compound stops []
    match s with
    | .mk [] =>
      skipLines fuel
      if (← peek).isSome then unexpected else pure s
    | _ => pure s

/-- Pipelines joined by `&&` and `||`. -/
def chain (fuel : Nat) : Reader Chain :=
  match fuel with
  | 0 => Reader.fail "script too long"
  | fuel + 1 => do
    let first ← pipeline fuel
    let rest ← chainRest fuel []
    pure (.mk first rest false)

/-- The `&&` and `||` links after the first pipeline of a chain. -/
def chainRest (fuel : Nat) (acc : List (Bool × Pipeline)) : Reader (List (Bool × Pipeline)) :=
  match fuel with
  | 0 => Reader.fail "script too long"
  | fuel + 1 => do
    skipBlanks fuel
    match ← peek2 with
    | (some '&', some '&') => do
      advance; advance; skipLines fuel
      let p ← pipeline fuel
      chainRest fuel ((true, p) :: acc)
    | (some '|', some '|') => do
      advance; advance; skipLines fuel
      let p ← pipeline fuel
      chainRest fuel ((false, p) :: acc)
    | _ => pure acc.reverse

/-- Commands joined by `|`, with an optional leading `!`. -/
def pipeline (fuel : Nat) : Reader Pipeline :=
  match fuel with
  | 0 => Reader.fail "script too long"
  | fuel + 1 => do
    skipBlanks fuel
    let saved ← get
    let w ← word fuel false
    let negated := w.plain && w.plainPrefix == "!"
    if !negated then set saved
    let first ← command fuel
    let rest ← stages fuel []
    pure (.mk negated (first :: rest))

/-- The commands after `|` in a pipeline. -/
def stages (fuel : Nat) (acc : List Command) : Reader (List Command) :=
  match fuel with
  | 0 => Reader.fail "script too long"
  | fuel + 1 => do
    skipBlanks fuel
    match ← peek2 with
    | (some '|', some '|') => pure acc.reverse
    | (some '|', _) => do
      advance; skipLines fuel
      let c ← command fuel
      stages fuel (c :: acc)
    | _ => pure acc.reverse

/-- One command: a compound command with its redirections, or a simple command. -/
def command (fuel : Nat) : Reader Command :=
  match fuel with
  | 0 => Reader.fail "script too long"
  | fuel + 1 => do
    skipBlanks fuel
    if (← peek) == some '(' then
      advance
      let inner ← body fuel []
      skipLines fuel
      if (← peek) != some ')' then
        Reader.fail ("Syntax error: " ++ tokenName (← get).rest ++ " unexpected (expecting \")\")")
      advance
      let rs ← redirects fuel []
      return .group inner true rs
    let saved ← get
    let w ← word fuel false
    let keyword := if w.plain then w.plainPrefix else ""
    match keyword with
    | "if" => do
      let arms ← ifArms fuel []
      expectWord fuel "fi"
      return .conditional arms.1 arms.2 (← redirects fuel [])
    | "while" | "until" => do
      let cond ← body fuel ["do"]
      expectWord fuel "do"
      let loopBody ← body fuel ["done"]
      expectWord fuel "done"
      return .loop (keyword == "until") cond loopBody (← redirects fuel [])
    | "for" => do
      skipBlanks fuel
      let var ← name fuel []
      if !isName var then Reader.fail "Syntax error: Bad for loop variable"
      skipLines fuel
      let saved2 ← get
      let w2 ← word fuel false
      let items ← if w2.plain && w2.plainPrefix == "in" then do
          let ws ← words fuel []
          pure (some ws)
        else do
          set saved2
          skipBlanks fuel
          if (← peek) == some ';' then advance
          pure none
      skipLines fuel
      expectWord fuel "do"
      let loopBody ← body fuel ["done"]
      expectWord fuel "done"
      return .forEach var items loopBody (← redirects fuel [])
    | "\x7b" => do
      let inner ← body fuel ["\x7d"]
      expectWord fuel "\x7d"
      return .group inner false (← redirects fuel [])
    | "case" => do
      skipBlanks fuel
      let subject ← word fuel false
      if subject.word.isEmpty then
        match ← peek with
        | some ch => Reader.fail ("Syntax error: \"" ++ String.singleton ch ++ "\" unexpected")
        | none => Reader.fail "Syntax error: end of file unexpected (expecting word)"
      expectWord fuel "in"
      let arms ← caseArms fuel []
      return .choice subject.word arms (← redirects fuel [])
    | "then" | "elif" | "else" | "fi" | "do" | "done" | "\x7d" | "esac" | "in" =>
      Reader.fail ("Syntax error: \"" ++ keyword ++ "\" unexpected")
    | _ => do
      skipBlanks fuel
      if w.plain && !w.plainPrefix.isEmpty && (← peek) == some '(' then
        advance
        skipBlanks fuel
        if (← peek) != some ')' then Reader.fail "Syntax error: \"(\" unexpected"
        advance
        if !isName w.plainPrefix then Reader.fail "Syntax error: Bad function name"
        skipLines fuel
        let body ← command fuel
        return .function w.plainPrefix body
      set saved
      simple fuel (← get).line [] [] []

/-- The arms of a `case` after `in`, through `esac`. -/
def caseArms (fuel : Nat) (acc : List (List Word × Script)) :
    Reader (List (List Word × Script)) :=
  match fuel with
  | 0 => Reader.fail "script too long"
  | fuel + 1 => do
    skipLines fuel
    let saved ← get
    let w ← word fuel false
    if w.plain && w.plainPrefix == "esac" then return acc.reverse
    set saved
    if (← peek) == some '(' then advance
    let patterns ← casePatterns fuel []
    let armBody ← script fuel .enclosed ["esac"] []
    skipLines fuel
    match ← peek2 with
    | (some ';', some ';') => do
      advance; advance
      caseArms fuel ((patterns, armBody) :: acc)
    | _ => do
      let here ← get
      let w ← word fuel false
      if w.plain && w.plainPrefix == "esac" then pure ((patterns, armBody) :: acc).reverse
      else Reader.fail ("Syntax error: " ++ tokenName here.rest ++ " unexpected (expecting \";;\")")

/-- The patterns of a `case` arm, separated by `|`, through the `)` after them. -/
def casePatterns (fuel : Nat) (acc : List Word) : Reader (List Word) :=
  match fuel with
  | 0 => Reader.fail "script too long"
  | fuel + 1 => do
    skipBlanks fuel
    let w ← word fuel false
    if w.word.isEmpty then
      match ← peek with
      | some ch => Reader.fail ("Syntax error: \"" ++ String.singleton ch ++ "\" unexpected")
      | none => Reader.fail "Syntax error: end of file unexpected (expecting \")\")"
    skipBlanks fuel
    match ← peek with
    | some '|' => advance; casePatterns fuel (w.word :: acc)
    | some ')' => advance; pure (w.word :: acc).reverse
    | some ch =>
      Reader.fail ("Syntax error: \"" ++ String.singleton ch ++ "\" unexpected (expecting \")\")")
    | none => Reader.fail "Syntax error: end of file unexpected (expecting \")\")"

/-- The arms of a conditional after `if`, up to `fi` (not consumed). -/
def ifArms (fuel : Nat) (acc : List (Script × Script)) :
    Reader (List (Script × Script) × Option Script) :=
  match fuel with
  | 0 => Reader.fail "script too long"
  | fuel + 1 => do
    let cond ← body fuel ["then"]
    expectWord fuel "then"
    let thenPart ← body fuel ["elif", "else", "fi"]
    let acc := (cond, thenPart) :: acc
    let saved ← get
    skipLines fuel
    let w ← word fuel false
    if w.plain && w.plainPrefix == "elif" then ifArms fuel acc
    else if w.plain && w.plainPrefix == "else" then do
      let other ← body fuel ["fi"]
      pure (acc.reverse, some other)
    else do
      set saved
      pure (acc.reverse, none)

/-- Consume a reserved word, or fail naming it. -/
def expectWord (fuel : Nat) (expected : String) : Reader Unit :=
  match fuel with
  | 0 => Reader.fail "script too long"
  | fuel + 1 => do
    skipLines fuel
    let w ← word fuel false
    let next ← peek
    if w.plain && w.plainPrefix == expected then pure ()
    else if w.word.isEmpty && next.isNone then
      Reader.fail ("Syntax error: end of file unexpected (expecting \"" ++ expected ++ "\")")
    else
      let shown := if w.word.isEmpty then (match next with
        | some c => String.singleton c
        | none => "end of file") else w.plainPrefix
      Reader.fail ("Syntax error: \"" ++ shown ++ "\" unexpected (expecting \"" ++ expected ++ "\")")

/-- The words of a `for` list, up to `;` or a newline (consumed). -/
def words (fuel : Nat) (acc : List Word) : Reader (List Word) :=
  match fuel with
  | 0 => Reader.fail "script too long"
  | fuel + 1 => do
    skipBlanks fuel
    match ← peek with
    | some ';' | some '\n' => advance; pure acc.reverse
    | none => pure acc.reverse
    | some c =>
      if isMeta c then Reader.fail ("Syntax error: \"" ++ String.singleton c ++ "\" unexpected")
      else
        let w ← word fuel false
        words fuel (w.word :: acc)

/-- Redirections after a compound command. -/
def redirects (fuel : Nat) (acc : List Redirect) : Reader (List Redirect) :=
  match fuel with
  | 0 => Reader.fail "script too long"
  | fuel + 1 => do
    skipBlanks fuel
    match ← redirect fuel with
    | some r => redirects fuel (r :: acc)
    | none => pure acc.reverse

/-- A redirection, when one starts here. -/
def redirect (fuel : Nat) : Reader (Option Redirect) :=
  match fuel with
  | 0 => Reader.fail "script too long"
  | fuel + 1 => do
    let c ← get
    let digits := c.rest.takeWhile Char.isDigit
    let after := c.rest.drop digits.length
    let fd := if digits.isEmpty then (if after.head? == some '<' then 0 else 1)
      else digits.foldl (fun n d => 10 * n + (d.toNat - 48)) 0
    match after with
    | '<' :: '<' :: more =>
      for _ in digits do advance
      advance; advance
      let strip := more.head? == some '-'
      if strip then advance
      skipBlanks fuel
      let before ← get
      let target ← word fuel false
      if target.word.isEmpty then unexpected
      let c ← get
      let raw := before.rest.take (before.rest.length - c.rest.length)
      let isQuote (ch : Char) : Bool := ch == '\'' || ch == '"' || ch == '\\'
      let delim := raw.filter fun ch => !isQuote ch
      let lineRest := c.rest.takeWhile (· != '\n')
      let afterLine := c.rest.drop lineRest.length
      match afterLine with
      | [] => pure (some (.mk fd .here []))
      | _ :: following =>
        let (lines, remaining, taken) := hereLines (following.length + 1) strip delim following
        set { c with rest := lineRest ++ '\n' :: remaining, held := c.held + taken }
        let text := String.join (lines.map String.ofList)
        if raw.any isQuote then pure (some (.mk fd .here [.quoted text]))
        else
          match (hereText fuel []).run { rest := text.toList, line := c.line + 1 } with
          | .ok (pieces, _) => pure (some (.mk fd .here pieces))
          | .error e => throw e
    | '>' :: _ | '<' :: _ =>
      for _ in digits do advance
      let kind ← match after with
        | '>' :: '>' :: _ => do advance; advance; pure RedirectKind.append
        | '>' :: '&' :: _ => do advance; advance; pure RedirectKind.duplicate
        | '>' :: '|' :: _ => do advance; advance; pure RedirectKind.clobber
        | '>' :: _ => do advance; pure RedirectKind.write
        | '<' :: '&' :: _ => do advance; advance; pure RedirectKind.duplicate
        | '<' :: '>' :: _ => do advance; advance; pure RedirectKind.readWrite
        | _ => do advance; pure RedirectKind.read
      skipBlanks fuel
      let target ← word fuel false
      if target.word.isEmpty then unexpected
      pure (some (.mk fd kind target.word))
    | _ => pure none

/-- A simple command: assignments first, then words, with redirections anywhere. -/
def simple (fuel : Nat) (line : Nat) (assigns : List (String × Word)) (ws : List Word)
    (rs : List Redirect) : Reader Command :=
  match fuel with
  | 0 => Reader.fail "script too long"
  | fuel + 1 => do
    skipBlanks fuel
    match ← redirect fuel with
    | some r => simple fuel line assigns ws (r :: rs)
    | none =>
      match ← peek with
      | none => finish
      | some c =>
        if isMeta c then finish
        else
          let w ← word fuel false
          let eq := w.plainPrefix.toList.takeWhile (· != '=')
          if ws.isEmpty && w.plainPrefix.toList.contains '=' && isName (String.ofList eq) then
            let value := match w.word with
              | .lit t :: more =>
                let t' := String.ofList (t.toList.drop (eq.length + 1))
                if t'.isEmpty then more else .lit t' :: more
              | other => other
            simple fuel line ((String.ofList eq, value) :: assigns) ws rs
          else simple fuel line assigns (w.word :: ws) rs
where
  finish : Reader Command := do
    if assigns.isEmpty && ws.isEmpty && rs.isEmpty then unexpected
    pure (.simple line assigns.reverse ws.reverse rs.reverse)

/-- One word; `inQuotes` is never set at the top and marks text inside double quotes. -/
def word (fuel : Nat) (inQuotes : Bool) : Reader WordRead :=
  match fuel with
  | 0 => Reader.fail "script too long"
  | fuel + 1 => wordPieces fuel inQuotes [] "" true

/-- The pieces of an unquoted word, kept in reverse, with the plain prefix so far. -/
def wordPieces (fuel : Nat) (inQuotes : Bool) (acc : List Piece) (prefixText : String)
    (plain : Bool) : Reader WordRead :=
  match fuel with
  | 0 => Reader.fail "script too long"
  | fuel + 1 => do
    let done : WordRead := { word := acc.reverse, plainPrefix := prefixText, plain }
    match ← peek2 with
    | (none, _) => pure done
    | (some '\\', some '\n') => advance; advance; wordPieces fuel inQuotes acc prefixText plain
    | (some '\\', some c) =>
      advance; advance
      wordPieces fuel inQuotes (pushQuoted acc (String.singleton c)) prefixText false
    | (some '\\', none) => advance; wordPieces fuel inQuotes (pushText acc "\\") prefixText false
    | (some '\'', _) => do
      advance
      let text ← singleQuoted fuel []
      wordPieces fuel inQuotes (pushQuoted acc text) prefixText false
    | (some '"', _) => do
      advance
      let inner ← doubleQuoted fuel []
      let acc := inner.foldl (fun a p => match p with
        | .quoted t => pushQuoted a t
        | other => other :: a) (pushQuoted acc "")
      wordPieces fuel inQuotes acc prefixText false
    | (some '$', _) => do
      advance
      let p ← dollar fuel false
      let acc := match p with
        | .lit t => pushText acc t
        | other => other :: acc
      wordPieces fuel inQuotes acc prefixText false
    | (some c, _) =>
      if c == backquote then do
        advance
        let body ← backquoted fuel false
        wordPieces fuel inQuotes (body :: acc) prefixText false
      else if isMeta c then pure done
      else do
        advance
        let prefixText := if plain then prefixText.push c else prefixText
        wordPieces fuel inQuotes (pushText acc (String.singleton c)) prefixText plain

/-- The text of single quotes, after the opening quote, through the closing one. -/
def singleQuoted (fuel : Nat) (acc : List Char) : Reader String :=
  match fuel with
  | 0 => Reader.fail "script too long"
  | fuel + 1 => do
    match ← peek with
    | none => Reader.fail "Syntax error: Unterminated quoted string"
    | some '\'' => advance; pure (String.ofList acc.reverse)
    | some c => advance; singleQuoted fuel (c :: acc)

/-- The pieces of double quotes, after the opening quote, through the closing one. -/
def doubleQuoted (fuel : Nat) (acc : List Piece) : Reader (List Piece) :=
  match fuel with
  | 0 => Reader.fail "script too long"
  | fuel + 1 => do
    match ← peek2 with
    | (none, _) => Reader.fail "Syntax error: Unterminated quoted string"
    | (some '"', _) => advance; pure acc.reverse
    | (some '\\', some c) =>
      advance; advance
      if c == '\n' then doubleQuoted fuel acc
      else if c == '$' || c == '"' || c == '\\' || c == backquote then
        doubleQuoted fuel (pushQuoted acc (String.singleton c))
      else doubleQuoted fuel (pushQuoted acc ("\\" ++ String.singleton c))
    | (some '$', _) => do
      advance
      let p ← dollar fuel true
      match p with
      | .lit t => doubleQuoted fuel (pushQuoted acc t)
      | other => doubleQuoted fuel (other :: acc)
    | (some c, _) =>
      if c == backquote then do
        advance
        let body ← backquoted fuel true
        doubleQuoted fuel (body :: acc)
      else do
        advance
        doubleQuoted fuel (pushQuoted acc (String.singleton c))

/-- What follows a `$`. -/
def dollar (fuel : Nat) (quoted : Bool) : Reader Piece :=
  match fuel with
  | 0 => Reader.fail "script too long"
  | fuel + 1 => do
    match ← peek with
    | some '(' => do
      advance
      if (← peek) == some '(' then
        advance
        let expr ← arithText fuel 0 []
        return .arith expr quoted
      let body ← script fuel .enclosed [] []
      skipLines fuel
      if (← peek) != some ')' then
        Reader.fail ("Syntax error: " ++ tokenName (← get).rest ++ " unexpected (expecting \")\")")
      advance
      pure (.capture body quoted)
    | some '\x7b' => do
      advance
      let (isLength, next) := match ← peek2 with
        | (some '#', some '\x7d') | (some '#', none) => (false, some '#')
        | (some '#', some c) => (true, some c)
        | (c, _) => (false, c)
      if isLength then advance
      let n ← match next with
        | some c =>
          if isNameStart c then name fuel []
          else if c.isDigit then do
            let ds := (← get).rest.takeWhile Char.isDigit
            for _ in ds do advance
            pure (String.ofList ds)
          else if "@*#?-$!".toList.contains c then do advance; pure (String.singleton c)
          else Reader.fail "Syntax error: Bad substitution"
        | none => Reader.fail "Syntax error: Missing '\x7d'"
      let op ← match ← peek2 with
        | (some '\x7d', _) => pure none
        | (some ':', some c) =>
          match modifierOf c with
          | some m => do advance; advance; pure (some (m, true))
          | none => Reader.fail "Syntax error: Bad substitution"
        | (some '#', some '#') => do advance; advance; pure (some (Modifier.dropPrefix true, false))
        | (some '%', some '%') => do advance; advance; pure (some (Modifier.dropSuffix true, false))
        | (some '#', _) => do advance; pure (some (Modifier.dropPrefix false, false))
        | (some '%', _) => do advance; pure (some (Modifier.dropSuffix false, false))
        | (some c, _) =>
          match modifierOf c with
          | some m => do advance; pure (some (m, false))
          | none => Reader.fail "Syntax error: Bad substitution"
        | (none, _) => Reader.fail "Syntax error: Missing '\x7d'"
      match op with
      | none => do
        advance
        pure (if isLength then .length n quoted else .param n quoted)
      | some (m, colon) =>
        if isLength then Reader.fail "Syntax error: Bad substitution"
        let isPattern := match m with
          | .dropPrefix _ | .dropSuffix _ => true
          | _ => false
        let w ← braceWord fuel (quoted && !isPattern) []
        pure (.modified n m colon w quoted)
    | some c =>
      if c.isDigit || c == '#' || c == '@' || c == '*' || c == '?' || c == '$' || c == '!' ||
          c == '-' then do
        advance
        pure (.param (String.singleton c) quoted)
      else if isNameStart c then do
        let n ← name fuel []
        pure (.param n quoted)
      else pure (.lit "$")
    | none => pure (.lit "$")

/-- The word of a braced parameter expansion, through the closing brace; inside double quotes
(`quoted`) it reads like their text, outside like a word whose blanks are its own. The pattern
of `#` and `%` always reads the second way, so that its `*`, `?` and `[` keep their meaning. -/
def braceWord (fuel : Nat) (quoted : Bool) (acc : List Piece) : Reader (List Piece) :=
  match fuel with
  | 0 => Reader.fail "script too long"
  | fuel + 1 => do
    match ← peek2 with
    | (none, _) => Reader.fail "Syntax error: Missing '\x7d'"
    | (some '\x7d', _) => advance; pure acc.reverse
    | (some '\\', some c) =>
      advance; advance
      if c == '\n' then braceWord fuel quoted acc
      else if !quoted || c == '$' || c == '"' || c == '\\' || c == backquote || c == '\x7d' then
        braceWord fuel quoted (pushQuoted acc (String.singleton c))
      else braceWord fuel quoted (pushQuoted acc ("\\" ++ String.singleton c))
    | (some '\'', _) =>
      advance
      if quoted then braceWord fuel quoted (pushQuoted acc "'")
      else do
        let text ← singleQuoted fuel []
        braceWord fuel quoted (pushQuoted acc text)
    | (some '"', _) => do
      advance
      let inner ← doubleQuoted fuel []
      let acc := inner.foldl (fun a p => match p with
        | .quoted t => pushQuoted a t
        | other => other :: a) (pushQuoted acc "")
      braceWord fuel quoted acc
    | (some '$', _) => do
      advance
      match ← dollar fuel quoted with
      | .lit t => braceWord fuel quoted (if quoted then pushQuoted acc t else pushText acc t)
      | other => braceWord fuel quoted (other :: acc)
    | (some c, _) =>
      advance
      if c == backquote then do
        let body ← backquoted fuel quoted
        braceWord fuel quoted (body :: acc)
      else if quoted then braceWord fuel quoted (pushQuoted acc (String.singleton c))
      else braceWord fuel quoted (pushText acc (String.singleton c))

/-- The text of an arithmetic expansion after `$((`, through the `))` that closes it; `depth`
counts the parentheses open inside. -/
def arithText (fuel : Nat) (depth : Nat) (acc : List Piece) : Reader (List Piece) :=
  match fuel with
  | 0 => Reader.fail "script too long"
  | fuel + 1 => do
    match ← peek2 with
    | (none, _) => Reader.fail "Syntax error: Missing '))'"
    | (some ')', some ')') =>
      if depth == 0 then do advance; advance; pure acc.reverse
      else do advance; arithText fuel (depth - 1) (pushText acc ")")
    | (some ')', _) => advance; arithText fuel (depth - 1) (pushText acc ")")
    | (some '(', _) => advance; arithText fuel (depth + 1) (pushText acc "(")
    | (some '\\', some c) =>
      advance; advance
      if c == '\n' then arithText fuel depth acc
      else if c == '$' || c == '\\' || c == backquote then
        arithText fuel depth (pushText acc (String.singleton c))
      else arithText fuel depth (pushText acc ("\\" ++ String.singleton c))
    | (some '"', _) => advance; arithText fuel depth acc
    | (some '$', _) => do
      advance
      match ← dollar fuel true with
      | .lit t => arithText fuel depth (pushText acc t)
      | other => arithText fuel depth (other :: acc)
    | (some c, _) =>
      advance
      if c == backquote then do
        let body ← backquoted fuel true
        arithText fuel depth (body :: acc)
      else arithText fuel depth (pushText acc (String.singleton c))

/-- The text of a here-document whose delimiter was not quoted: `$` and backquotes expand, and
a backslash escapes `$`, a backquote, a backslash and a newline. -/
def hereText (fuel : Nat) (acc : List Piece) : Reader (List Piece) :=
  match fuel with
  | 0 => Reader.fail "script too long"
  | fuel + 1 => do
    match ← peek2 with
    | (none, _) => pure acc.reverse
    | (some '\\', some c) =>
      if c == '\n' then do advance; advance; hereText fuel acc
      else if c == '$' || c == '\\' || c == backquote then do
        advance; advance; hereText fuel (pushQuoted acc (String.singleton c))
      else do advance; hereText fuel (pushQuoted acc "\\")
    | (some '$', _) => do
      advance
      match ← dollar fuel true with
      | .lit t => hereText fuel (pushQuoted acc t)
      | other => hereText fuel (other :: acc)
    | (some c, _) =>
      advance
      if c == backquote then do
        let body ← backquoted fuel true
        hereText fuel (body :: acc)
      else hereText fuel (pushQuoted acc (String.singleton c))

/-- A backquoted command substitution, after the opening backquote. Its text runs to the next
backquote that no backslash escapes; a backslash before a backslash, a backquote or `$` (and
`"` inside double quotes, `quoted`) is dropped, one before a newline joins the lines, and other
backslashes stay. The text is then read as a script of its own, its lines counted from one. -/
def backquoted (fuel : Nat) (quoted : Bool) : Reader Piece :=
  match fuel with
  | 0 => Reader.fail "script too long"
  | fuel + 1 => do
    let text ← backquoteText fuel quoted []
    let inner : Cursor := { rest := text, line := 1 }
    match (script fuel .top [] []).run inner with
    | .ok (s, after) =>
      match after.rest with
      | [] => pure (.capture s quoted)
      | _ =>
        throw { line := after.line, message := "Syntax error: " ++ tokenName after.rest ++ " unexpected" }
    | .error e => throw e

/-- The text of a backquoted command substitution, its escapes resolved, through the closing
backquote. -/
def backquoteText (fuel : Nat) (quoted : Bool) (acc : List Char) : Reader (List Char) :=
  match fuel with
  | 0 => Reader.fail "script too long"
  | fuel + 1 => do
    match ← peek2 with
    | (none, _) => Reader.fail "Syntax error: EOF in backquote substitution"
    | (some '\\', some '\n') => advance; advance; backquoteText fuel quoted acc
    | (some '\\', some c) =>
      advance; advance
      if c == '\\' || c == backquote || c == '$' || (quoted && c == '"') then
        backquoteText fuel quoted (c :: acc)
      else backquoteText fuel quoted (c :: '\\' :: acc)
    | (some '\\', none) => Reader.fail "Syntax error: EOF in backquote substitution"
    | (some c, _) =>
      advance
      if c == backquote then pure acc.reverse else backquoteText fuel quoted (c :: acc)
end

/-- One complete command: chains on one line, joined by `;` or `&`, through the newline. -/
def completeCommand (fuel : Nat) (acc : List Chain) : Reader Script :=
  match fuel with
  | 0 => Reader.fail "script too long"
  | fuel + 1 => do
    let c ← chain fuel
    skipBlanks fuel
    match ← peek2 with
    | (some ';', some ';') => Reader.fail "Syntax error: \";;\" unexpected"
    | (some ';', _) | (some '&', _) => do
      let c := if (← peek) == some '&' then background c else c
      advance
      skipBlanks fuel
      match ← peek with
      | some '\n' => advance; pure (.mk (c :: acc).reverse)
      | none => pure (.mk (c :: acc).reverse)
      | some _ => completeCommand fuel (c :: acc)
    | (some '\n', _) => advance; pure (.mk (c :: acc).reverse)
    | (none, _) => pure (.mk (c :: acc).reverse)
    | _ => unexpected

end Reader

/-- The next complete command of a script and where reading goes on, or `none` at the end. -/
def Cursor.next (c : Cursor) : Except ParseError (Option (Script × Cursor)) := do
  let fuel := 16 * c.rest.length + 16
  let ((), c) ← (Reader.skipLines fuel).run c
  if c.rest.isEmpty then return none
  let (s, c) ← (Reader.completeCommand fuel []).run c
  pure (some (s, c))

/-- Read a whole script. -/
def Script.parse (text : String) : Except ParseError Script := do
  let cs := text.toList
  let (s, rest) ← (Reader.script (16 * cs.length + 16) .top [] []).run { rest := cs, line := 1 }
  match rest.rest with
  | [] => pure s
  | r => throw { line := rest.line, message := "Syntax error: " ++ Reader.tokenName r ++ " unexpected" }

end HostAgent.Shell
