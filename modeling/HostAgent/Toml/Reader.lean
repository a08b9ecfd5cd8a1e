import HostAgent.Toml.Document
import HostAgent.Decimal.Binary64

/-!
# `HostAgent.Toml.Reader` — reading TOML text

`Value.ofToml` reads a TOML 1.0 document into its root table. Line by line, a line holds nothing,
a comment, a key/value pair, a `[table]` header or an `[[array]]` header, and may end in a
comment. `Builder` (in `HostAgent.Toml.Document`) assembles the lines and refuses duplicate
definitions.

The grammar, in the order the reader tries it:

* keys are bare (`A-Z a-z 0-9 _ -`), basic-quoted or literal-quoted, joined by dots;
* strings: basic with escapes `\b \t \n \f \r \" \\ \uXXXX \UXXXXXXXX`, literal, and the
  multi-line forms of both, whose first newline is dropped and which may end with one or two
  quotes of content before the closing three; a backslash at the end of a line of a multi-line
  basic string drops the line break and the blanks after it; control characters other than tab
  are refused (line breaks only in multi-line strings);
* integers: decimal with an optional sign and no leading zero, or `0x`, `0o`, `0b` digits,
  with single underscores between digits, in the signed 64-bit range;
* floats: a decimal integer part followed by a fraction, an exponent or both, or `inf` and `nan`
  with an optional sign; a positive float too large to be finite is refused, while a negative
  one is negative infinity;
* `true`, `false`; dates `YYYY-MM-DD`, times `HH:MM:SS[.frac]`, both joined by `T`, `t` or a
  blank, and an offset `Z` or `±HH:MM` after a date with a time;
* arrays `[...]` of values, commas between, a trailing comma, blanks, comments and line breaks
  allowed; inline tables `{k = v, ...}` on one line without a trailing comma;
* `maxNesting` containers one in another, or a dotted key of `maxNesting` parts, are refused.

A leading byte order mark is skipped. Every step consumes input, so a fuel of a few times the
input length never runs out on a document the grammar accepts.
-/

namespace HostAgent.Toml

open HostAgent.Decimal

/-- Why a text is not a TOML document. -/
inductive ReadError where
  /-- The text breaks the grammar; the reason names what was expected. -/
  | malformed (reason : String)
  /-- The lines cannot be assembled into one document. -/
  | build (e : BuildError)
  deriving Repr

/-- The text of a reading error. -/
def ReadError.message : ReadError → String
  | .malformed reason => "TOML parse error: " ++ reason
  | .build (.duplicateKey k) => "TOML parse error: duplicate key " ++ k
  | .build (.wrongType k) => "TOML parse error: key " ++ k ++ " does not hold a table"

namespace Reader

/-- A grammar failure. -/
def fail (reason : String) : Except ReadError α := .error (.malformed reason)

/-- A blank inside a line. -/
def isBlank (c : Char) : Bool := c == ' ' || c == '\t'

/-- Drop blanks. -/
def skipBlanks (cs : List Char) : List Char := cs.dropWhile isBlank

/-- A character of a bare key. -/
def isBareKeyChar (c : Char) : Bool :=
  ('A' ≤ c ∧ c ≤ 'Z') || ('a' ≤ c ∧ c ≤ 'z') || ('0' ≤ c ∧ c ≤ '9') || c == '_' || c == '-'

/-- A character allowed in a comment or string besides the quotes: tab, printable ASCII, and
everything beyond ASCII. -/
def isTextChar (c : Char) : Bool := c == '\t' || (32 ≤ c.toNat && c.toNat != 127)

/-- A decimal digit. -/
def isDigit (c : Char) : Bool := '0' ≤ c ∧ c ≤ '9'

/-- The value of decimal digits. -/
def decimalValue (ds : List Char) : Nat := ds.foldl (fun n d => 10 * n + (d.toNat - 48)) 0

/-- The rest of a comment after `#`, up to the line break. -/
def comment (cs : List Char) : Except ReadError (List Char) :=
  let body := cs.takeWhile fun c => c != '\n' && c != '\r'
  if body.all isTextChar then .ok (cs.drop body.length) else fail "control character in comment"

/-- The end of a line: blanks, a comment, then a line break or the end of the text. -/
def lineEnd (cs : List Char) : Except ReadError (List Char) := do
  let cs := skipBlanks cs
  let cs ← match cs with
    | '#' :: r => comment r
    | _ => pure cs
  match cs with
  | [] => pure []
  | '\n' :: r => pure r
  | '\r' :: '\n' :: r => pure r
  | _ => fail "expected the end of the line"

/-- Blanks, comments and line breaks, as many as there are. -/
def skipFiller : Nat → List Char → Except ReadError (List Char)
  | 0, cs => .ok cs
  | fuel + 1, cs =>
    match skipBlanks cs with
    | '#' :: r => do skipFiller fuel (← comment r)
    | '\n' :: r => skipFiller fuel r
    | '\r' :: '\n' :: r => skipFiller fuel r
    | r => .ok r

/-- A hexadecimal digit's value. -/
def hexValue? (c : Char) : Option Nat :=
  if isDigit c then some (c.toNat - 48)
  else if 'a' ≤ c ∧ c ≤ 'f' then some (c.toNat - 87)
  else if 'A' ≤ c ∧ c ≤ 'F' then some (c.toNat - 55)
  else none

/-- `n` hexadecimal digits as a Unicode scalar value. -/
def unicodeEscape (n : Nat) (cs : List Char) : Except ReadError (Char × List Char) :=
  let ds := cs.take n
  if ds.length != n then fail "short unicode escape"
  else match ds.mapM hexValue? with
    | none => fail "invalid unicode escape"
    | some vs =>
      let v := vs.foldl (fun a d => 16 * a + d) 0
      if v < 0xD800 ∨ (0xE000 ≤ v ∧ v ≤ 0x10FFFF) then .ok (Char.ofNat v, cs.drop n)
      else fail "escape is not a Unicode scalar value"

/-- One escape after a backslash. -/
def escape (cs : List Char) : Except ReadError (Char × List Char) :=
  match cs with
  | 'b' :: r => .ok (Char.ofNat 8, r)
  | 't' :: r => .ok ('\t', r)
  | 'n' :: r => .ok ('\n', r)
  | 'f' :: r => .ok (Char.ofNat 12, r)
  | 'r' :: r => .ok ('\r', r)
  | '"' :: r => .ok ('"', r)
  | '\\' :: r => .ok ('\\', r)
  | 'u' :: r => unicodeEscape 4 r
  | 'U' :: r => unicodeEscape 8 r
  | _ => fail "invalid escape"

/-- The body of a one-line basic string, after its opening quote. -/
def basicBody : Nat → List Char → List Char → Except ReadError (String × List Char)
  | 0, _, _ => fail "input exhausted"
  | _ + 1, _, [] => fail "unterminated string"
  | fuel + 1, acc, c :: r =>
    if c == '"' then .ok (String.ofList acc.reverse, r)
    else if c == '\\' then do
      let (e, r) ← escape r
      basicBody fuel (e :: acc) r
    else if isTextChar c then basicBody fuel (c :: acc) r
    else fail "control character in string"

/-- The body of a one-line literal string, after its opening quote. -/
def literalBody (cs : List Char) : Except ReadError (String × List Char) :=
  let body := cs.takeWhile fun c => c != '\''
  match cs.drop body.length with
  | '\'' :: r =>
    if body.all isTextChar then .ok (String.ofList body, r) else fail "control character in string"
  | _ => fail "unterminated string"

/-- A line break at the head of the text, and what follows it. -/
def lineBreak? : List Char → Option (List Char)
  | '\n' :: r => some r
  | '\r' :: '\n' :: r => some r
  | _ => none

/-- Drop one line break right after an opening delimiter. -/
def dropFirstBreak (cs : List Char) : List Char := (lineBreak? cs).getD cs

/-- The closing of a multi-line string: three quotes, with up to two quotes of content before
them. Gives the content quotes and the rest. -/
def closing? (q : Char) (cs : List Char) : Option (List Char × List Char) :=
  match cs with
  | a :: b :: c :: d :: e :: r =>
    if a == q && b == q && c == q && d == q && e == q then some ([q, q], r)
    else if a == q && b == q && c == q && d == q then some ([q], e :: r)
    else if a == q && b == q && c == q then some ([], d :: e :: r)
    else none
  | a :: b :: c :: d :: r =>
    if a == q && b == q && c == q && d == q then some ([q], r)
    else if a == q && b == q && c == q then some ([], d :: r)
    else none
  | a :: b :: c :: r => if a == q && b == q && c == q then some ([], r) else none
  | _ => none

/-- After a line-ending backslash: drop blanks and line breaks. -/
def trimContinuation : Nat → List Char → List Char
  | 0, cs => cs
  | fuel + 1, cs =>
    match skipBlanks cs with
    | '\n' :: r => trimContinuation fuel r
    | '\r' :: '\n' :: r => trimContinuation fuel r
    | r => r

/-- The body of a multi-line basic string. -/
def mlBasicBody : Nat → List Char → List Char → Except ReadError (String × List Char)
  | 0, _, _ => fail "input exhausted"
  | fuel + 1, acc, cs =>
    match closing? '"' cs with
    | some (extra, r) => .ok (String.ofList (acc.reverse ++ extra), r)
    | none =>
      match cs with
      | [] => fail "unterminated string"
      | '\\' :: r =>
        let afterBlanks := skipBlanks r
        match lineBreak? afterBlanks with
        | some _ => mlBasicBody fuel acc (trimContinuation (r.length + 1) afterBlanks)
        | none => do
          let (e, r) ← escape r
          mlBasicBody fuel (e :: acc) r
      | c :: r =>
        match lineBreak? cs with
        | some after => mlBasicBody fuel ('\n' :: acc) after
        | none =>
          if isTextChar c then mlBasicBody fuel (c :: acc) r else fail "control character in string"

/-- The body of a multi-line literal string. -/
def mlLiteralBody : Nat → List Char → List Char → Except ReadError (String × List Char)
  | 0, _, _ => fail "input exhausted"
  | fuel + 1, acc, cs =>
    match closing? '\'' cs with
    | some (extra, r) => .ok (String.ofList (acc.reverse ++ extra), r)
    | none =>
      match cs with
      | [] => fail "unterminated string"
      | c :: r =>
        match lineBreak? cs with
        | some after => mlLiteralBody fuel ('\n' :: acc) after
        | none =>
          if isTextChar c then mlLiteralBody fuel (c :: acc) r else fail "control character in string"

/-- One key: bare, basic-quoted or literal-quoted. -/
def simpleKey (cs : List Char) : Except ReadError (String × List Char) :=
  match cs with
  | '"' :: r => basicBody (r.length + 1) [] r
  | '\'' :: r => literalBody r
  | _ =>
    let k := cs.takeWhile isBareKeyChar
    if k.isEmpty then fail "expected a key" else .ok (String.ofList k, cs.drop k.length)

/-- A dotted key: keys joined by dots, blanks allowed around the dots. -/
def dottedKey : Nat → List Char → Except ReadError (List String × List Char)
  | 0, _ => fail "input exhausted"
  | fuel + 1, cs => do
    let (k, r) ← simpleKey cs
    match skipBlanks r with
    | '.' :: more => do
      let (ks, r2) ← dottedKey fuel (skipBlanks more)
      pure (k :: ks, r2)
    | _ => pure ([k], r)

/-- How deep values may nest, and how many parts a dotted key may have: this many is refused. -/
def maxNesting : Nat := 80

/-- A dotted key with fewer than `maxNesting` parts. -/
def keyPath (cs : List Char) : Except ReadError (List String × List Char) := do
  let (path, r) ← dottedKey (cs.length + 1) cs
  if path.length ≥ maxNesting then fail "recursion limit exceeded" else pure (path, r)

/-- Digits with single underscores between them, as the digits alone, and the rest. -/
def digitGroups (isDigitOf : Char → Bool) : Nat → List Char → List Char → Option (List Char × List Char)
  | 0, _, _ => none
  | fuel + 1, acc, cs =>
    match cs with
    | c :: r =>
      if isDigitOf c then digitGroups isDigitOf fuel (c :: acc) r
      else if c == '_' && !acc.isEmpty then
        match r with
        | d :: r2 => if isDigitOf d then digitGroups isDigitOf fuel (d :: acc) r2 else none
        | [] => none
      else if acc.isEmpty then none else some (acc.reverse, cs)
    | [] => if acc.isEmpty then none else some (acc.reverse, [])

/-- Digit groups that make up a whole token. -/
def wholeDigits (isDigitOf : Char → Bool) (cs : List Char) : Option (List Char) :=
  match digitGroups isDigitOf (cs.length + 1) [] cs with
  | some (ds, []) => some ds
  | _ => none

/-- The value of digits in a base. -/
def baseValue (base : Nat) (ds : List Char) : Nat :=
  ds.foldl (fun n d => base * n + ((hexValue? d).getD 0)) 0

/-- An integer in the signed 64-bit range. -/
def inRange (i : Int) : Option Value :=
  if -9223372036854775808 ≤ i ∧ i < 9223372036854775808 then some (.int i) else none

/-- A float from its sign, digits and decimal exponent. A positive value too large to be finite
is refused; a negative one becomes negative infinity. -/
def floatOf (negative : Bool) (digits : Nat) (exp : Int) : Option Value :=
  match Binary64.ofDecimal negative digits exp with
  | some x => some (.float x)
  | none => if negative then some (.float ⟨0xFFF0000000000000⟩) else none

/-- The integer part of a decimal number: `0` alone or digits without a leading zero. -/
def integerPart (cs : List Char) : Option (List Char × List Char) :=
  match cs with
  | '0' :: r => some (['0'], r)
  | _ => digitGroups isDigit (cs.length + 1) [] cs

/-- The signed exponent after `e`. -/
def exponentPart (cs : List Char) : Option Int :=
  let (negative, cs) := match cs with
    | '+' :: r => (false, r)
    | '-' :: r => (true, r)
    | _ => (false, cs)
  (wholeDigits isDigit cs).map fun ds =>
    if negative then -(decimalValue ds : Int) else (decimalValue ds : Int)

/-- A number token: an integer or a float. -/
def number (tok : List Char) : Option Value :=
  let (negative, signed, body) := match tok with
    | '+' :: r => (false, true, r)
    | '-' :: r => (true, true, r)
    | _ => (false, false, tok)
  match body with
  | ['i', 'n', 'f'] =>
    some (.float ⟨if negative then 0xFFF0000000000000 else 0x7FF0000000000000⟩)
  | ['n', 'a', 'n'] => some (.float ⟨if negative then 0xFFF8000000000000 else 0x7FF8000000000000⟩)
  | '0' :: 'x' :: r => if signed then none else (wholeDigits (fun c => (hexValue? c).isSome) r).bind fun ds => inRange (baseValue 16 ds)
  | '0' :: 'o' :: r => if signed then none else (wholeDigits (fun c => '0' ≤ c ∧ c ≤ '7') r).bind fun ds => inRange (baseValue 8 ds)
  | '0' :: 'b' :: r => if signed then none else (wholeDigits (fun c => c == '0' || c == '1') r).bind fun ds => inRange (baseValue 2 ds)
  | _ =>
    match integerPart body with
    | none => none
    | some (intDigits, rest) =>
      let n := decimalValue intDigits
      match rest with
      | [] => inRange (if negative then -(n : Int) else n)
      | '.' :: more =>
        match digitGroups isDigit (more.length + 1) [] more with
        | none => none
        | some (frac, after) =>
          let digits := decimalValue (intDigits ++ frac)
          match after with
          | [] => floatOf negative digits (-(frac.length : Int))
          | e :: expText =>
            if e == 'e' || e == 'E' then
              (exponentPart expText).bind fun x => floatOf negative digits (x - frac.length)
            else none
      | e :: expText =>
        if e == 'e' || e == 'E' then (exponentPart expText).bind fun x => floatOf negative n x
        else none

/-- Exactly `n` digits at the head of the text. -/
def fixedDigits (n : Nat) (cs : List Char) : Option (Nat × List Char) :=
  let ds := cs.take n
  if ds.length == n && ds.all isDigit then some (decimalValue ds, cs.drop n) else none

/-- Whether the text starts a date: four digits and a dash. -/
def startsDate (cs : List Char) : Bool :=
  match cs with
  | a :: b :: c :: d :: '-' :: _ => isDigit a && isDigit b && isDigit c && isDigit d
  | _ => false

/-- Whether the text starts a time: two digits and a colon. -/
def startsTime (cs : List Char) : Bool :=
  match cs with
  | a :: b :: ':' :: _ => isDigit a && isDigit b
  | _ => false

/-- Days of a month. -/
def monthDays (y m : Nat) : Nat :=
  if m == 2 then (if (y % 4 == 0 && y % 100 != 0) || y % 400 == 0 then 29 else 28)
  else if m == 4 || m == 6 || m == 9 || m == 11 then 30 else 31

/-- A date `YYYY-MM-DD`. -/
def date (cs : List Char) : Except ReadError (List Char) := do
  let some (y, r) := fixedDigits 4 cs | fail "expected a year"
  let '-' :: r := r | fail "expected -"
  let some (m, r) := fixedDigits 2 r | fail "expected a month"
  let '-' :: r := r | fail "expected -"
  let some (d, r) := fixedDigits 2 r | fail "expected a day"
  if m < 1 || m > 12 || d < 1 || d > monthDays y m then fail "date out of range"
  pure r

/-- A time `HH:MM:SS[.frac]`. -/
def time (cs : List Char) : Except ReadError (List Char) := do
  let some (h, r) := fixedDigits 2 cs | fail "expected an hour"
  let ':' :: r := r | fail "expected :"
  let some (m, r) := fixedDigits 2 r | fail "expected a minute"
  let ':' :: r := r | fail "expected :"
  let some (s, r) := fixedDigits 2 r | fail "expected a second"
  if h > 23 || m > 59 || s > 60 then fail "time out of range"
  match r with
  | '.' :: more =>
    let ds := more.takeWhile isDigit
    if ds.isEmpty then fail "expected a fraction" else pure (more.drop ds.length)
  | _ => pure r

/-- An offset `Z` or `±HH:MM`, if one follows. -/
def offset (cs : List Char) : Except ReadError (List Char) := do
  match cs with
  | c :: r =>
    if c == 'Z' || c == 'z' then pure r
    else if c == '+' || c == '-' then
      let some (h, r) := fixedDigits 2 r | fail "expected an offset hour"
      let ':' :: r := r | fail "expected :"
      let some (m, r) := fixedDigits 2 r | fail "expected an offset minute"
      if h > 23 || m > 59 then fail "offset out of range"
      pure r
    else pure cs
  | [] => pure cs

/-- A date, a time, or a date with a time, kept as text. -/
def datetime (cs : List Char) : Except ReadError (Value × List Char) := do
  if startsTime cs then
    let r ← time cs
    pure (.datetime (String.ofList (cs.take (cs.length - r.length))), r)
  else
    let r ← date cs
    let r ← match r with
      | c :: more =>
        if c == 'T' || c == 't' || (c == ' ' && startsTime more) then do
          let r ← time more
          offset r
        else pure r
      | [] => pure r
    pure (.datetime (String.ofList (cs.take (cs.length - r.length))), r)

/-- A character of a number token. -/
def isNumberChar (c : Char) : Bool :=
  isDigit c || ('a' ≤ c ∧ c ≤ 'z') || ('A' ≤ c ∧ c ≤ 'Z') || c == '_' || c == '.' || c == '+' || c == '-'

mutual
/-- One value. -/
def value (depth : Nat) : Nat → List Char → Except ReadError (Item × List Char)
  | 0, _ => fail "input exhausted"
  | fuel + 1, cs =>
    match cs with
    | '"' :: '"' :: '"' :: r => do
      let (s, r) ← mlBasicBody (r.length + 1) [] (dropFirstBreak r)
      pure (.value (.str s), r)
    | '"' :: r => do
      let (s, r) ← basicBody (r.length + 1) [] r
      pure (.value (.str s), r)
    | '\'' :: '\'' :: '\'' :: r => do
      let (s, r) ← mlLiteralBody (r.length + 1) [] (dropFirstBreak r)
      pure (.value (.str s), r)
    | '\'' :: r => do
      let (s, r) ← literalBody r
      pure (.value (.str s), r)
    | '[' :: r =>
      if depth + 1 ≥ maxNesting then fail "recursion limit exceeded"
      else arrayItems (depth + 1) fuel [] r
    | '{' :: r =>
      if depth + 1 ≥ maxNesting then fail "recursion limit exceeded"
      else inlineFields (depth + 1) fuel [] true r
    | 't' :: 'r' :: 'u' :: 'e' :: r => .ok (.value (.bool true), r)
    | 'f' :: 'a' :: 'l' :: 's' :: 'e' :: r => .ok (.value (.bool false), r)
    | _ =>
      if startsDate cs || startsTime cs then do
        let (v, r) ← datetime cs
        pure (.value v, r)
      else
        let tok := cs.takeWhile isNumberChar
        if tok.isEmpty then fail "expected a value"
        else match number tok with
          | some v => .ok (.value v, cs.drop tok.length)
          | none => fail "invalid number"

/-- The items of an array after `[`, the array being the `depth`-th container one in another. -/
def arrayItems (depth : Nat) : Nat → List Value → List Char → Except ReadError (Item × List Char)
  | 0, _, _ => fail "input exhausted"
  | fuel + 1, acc, cs => do
    let cs ← skipFiller (cs.length + 1) cs
    match cs with
    | ']' :: r => pure (.value (.array acc.reverse), r)
    | _ =>
      let (it, r) ← value depth fuel cs
      let r ← skipFiller (r.length + 1) r
      match r with
      | ',' :: r2 => arrayItems depth fuel (it.toValue :: acc) r2
      | ']' :: r2 => pure (.value (.array (it.toValue :: acc).reverse), r2)
      | _ => fail "expected , or ] in an array"

/-- The fields of an inline table after its opening brace, the table being the `depth`-th
container one in another. -/
def inlineFields (depth : Nat) : Nat → Items → Bool → List Char → Except ReadError (Item × List Char)
  | 0, _, _, _ => fail "input exhausted"
  | fuel + 1, items, first, cs => do
    let cs := skipBlanks cs
    match first, cs with
    | true, '}' :: r => pure (.inline [] false, r)
    | _, _ =>
      let (path, r) ← keyPath cs
      let r := skipBlanks r
      let '=' :: r := r | fail "expected = in an inline table"
      let (it, r) ← value depth fuel (skipBlanks r)
      let items ← match inlineKeyval items path.dropLast (path.getLastD "") it with
        | .ok items => pure items
        | .error e => throw (.build e)
      match skipBlanks r with
      | ',' :: r2 => inlineFields depth fuel items false r2
      | '}' :: r2 => pure (.inline items false, r2)
      | _ => fail "expected , or the closing brace in an inline table"
end

/-- A build step's failure as a reading error. -/
def built (r : Except BuildError Builder) : Except ReadError Builder :=
  r.mapError .build

/-- The lines of a document, one after the other. -/
def lines : Nat → Builder → List Char → Except ReadError Builder
  | 0, _, _ => fail "input exhausted"
  | fuel + 1, b, cs =>
    match skipBlanks cs with
    | [] => .ok b
    | '\n' :: r => lines fuel b r
    | '\r' :: '\n' :: r => lines fuel b r
    | '#' :: r => do lines fuel b (← lineEnd ('#' :: r))
    | '[' :: '[' :: r => do
      let (path, r) ← keyPath (skipBlanks r)
      let ']' :: ']' :: r := skipBlanks r | fail "expected ]] after a header"
      let b ← built (b.arrayHeader path)
      lines fuel b (← lineEnd r)
    | '[' :: r => do
      let (path, r) ← keyPath (skipBlanks r)
      let ']' :: r := skipBlanks r | fail "expected ] after a header"
      let b ← built (b.header path)
      lines fuel b (← lineEnd r)
    | line => do
      let (path, r) ← keyPath line
      let '=' :: r := skipBlanks r | fail "expected = after a key"
      let (it, r) ← value 0 (r.length + 2) (skipBlanks r)
      let b ← built (b.keyval path.dropLast (path.getLastD "") it)
      lines fuel b (← lineEnd r)

end Reader

/-- Read a TOML document into its root table. -/
def Value.ofToml (text : String) : Except ReadError Value := do
  let cs := match text.toList with
    | '﻿' :: r => r
    | cs => cs
  let b ← Reader.lines (cs.length + 2) {} cs
  b.finish.mapError .build

end HostAgent.Toml
