import HostAgent.Shell.Awk.Syntax
import HostAgent.Shell.Numeral

/-!
# `HostAgent.Shell.Awk.Lex` — the tokens of an awk program

The text of a program is cut into tokens before it is parsed. Two things need the token before:

* a `/` starts a regular expression unless it follows something that ends an operand (a name, a
  number, a string, `)`, `]`, `++`, `--`), where it divides;
* a name right before `(` is a function call (`funcName`); with a blank between, it is not.

Strings take the C escapes and octal `\ddd`; a backslash before another character stays. In a
regular expression only `\/` is taken, the rest is left to the regular-expression compiler.
Newlines are tokens, since they end statements; a backslash before a newline joins the lines, and
`#` starts a comment.
-/

namespace HostAgent.Shell

namespace Awk

/-- A token of an awk program. -/
inductive Token where
  | newline | semi | lbrace | rbrace | lparen | rparen | lbracket | rbracket | comma
  /-- An operator. -/
  | op (s : String)
  | number (x : Float)
  | string (s : String)
  | regex (s : String)
  /-- A name right before `(`. -/
  | funcName (s : String)
  | name (s : String)
  /-- The name of a built-in function. -/
  | builtinName (s : String)
  | keyword (s : String)
  | eof
  deriving Inhabited

/-- The reserved words. -/
def keywords : List String :=
  ["BEGIN", "END", "function", "func", "if", "else", "while", "for", "do", "break", "continue",
    "next", "nextfile", "exit", "return", "delete", "in", "getline", "print", "printf"]

/-- The built-in functions. -/
def builtinFunctions : List String :=
  ["length", "substr", "index", "split", "sub", "gsub", "match", "sprintf", "sin", "cos", "atan2",
    "exp", "log", "sqrt", "int", "rand", "srand", "tolower", "toupper", "system", "close", "fflush"]

/-- The operators, longest first. -/
def operators : List String :=
  ["**=", "+=", "-=", "*=", "/=", "%=", "^=", "==", "<=", ">=", "!=", "++", "--", "&&", "||", ">>",
    "!~", "**", "+", "-", "*", "/", "%", "^", "!", ">", "<", "|", "?", ":", "~", "$", "="]

/-- How a token reads in a message. -/
def Token.text : Token → String
  | .newline => "end of line"
  | .semi => ";"
  | .lbrace => "\x7b"
  | .rbrace => "\x7d"
  | .lparen => "("
  | .rparen => ")"
  | .lbracket => "["
  | .rbracket => "]"
  | .comma => ","
  | .op s => s
  | .number x => toString x
  | .string s => s
  | .regex s => s
  | .funcName s | .name s | .builtinName s | .keyword s => s
  | .eof => "end of file"

/-- Whether a token ends an operand, so that a `/` after it divides. -/
def Token.endsOperand : Token → Bool
  | .name _ | .number _ | .string _ | .regex _ | .rparen | .rbracket | .builtinName _ => true
  | .op "++" | .op "--" => true
  | _ => false

/-- A token and the line it is on. -/
structure Lexed where
  tok : Token
  line : Nat
  deriving Inhabited

/-- The value of a numeric constant. -/
def numberValue (text : String) : Float :=
  Float.ofBits (Numeral.readFloat text).value.bits

/-- Octal digits, at most three, at the front of some characters: their value and the rest. -/
def octalEscape (cs : List Char) : Nat × List Char :=
  let ds := (cs.takeWhile fun c => '0' ≤ c && c ≤ '7').take 3
  (ds.foldl (fun v c => 8 * v + (c.toNat - 48)) 0, cs.drop ds.length)

/-- The rest of a string after its opening quote: its characters, the rest of the program, and
the lines the string ran over; `none` when the line or the text ends first. -/
def stringBody : Nat → List Char → List Char → Nat → Option (String × List Char × Nat)
  | 0, _, _, _ => none
  | _, [], _, _ => none
  | fuel + 1, c :: rest, acc, lines =>
    match c with
    | '"' => some (String.ofList acc.reverse, rest, lines)
    | '\n' => none
    | '\\' =>
      match rest with
      | [] => none
      | d :: more =>
        match d with
        | '"' => stringBody fuel more ('"' :: acc) lines
        | '\\' => stringBody fuel more ('\\' :: acc) lines
        | '/' => stringBody fuel more ('/' :: acc) lines
        | 'n' => stringBody fuel more ('\n' :: acc) lines
        | 't' => stringBody fuel more ('\t' :: acc) lines
        | 'r' => stringBody fuel more ('\r' :: acc) lines
        | 'a' => stringBody fuel more (Char.ofNat 7 :: acc) lines
        | 'b' => stringBody fuel more (Char.ofNat 8 :: acc) lines
        | 'f' => stringBody fuel more (Char.ofNat 12 :: acc) lines
        | 'v' => stringBody fuel more (Char.ofNat 11 :: acc) lines
        | '\n' => stringBody fuel more acc (lines + 1)
        | _ =>
          if '0' ≤ d && d ≤ '7' then
            let (v, after) := octalEscape rest
            stringBody fuel after (Char.ofNat (v % 256) :: acc) lines
          else stringBody fuel more (d :: '\\' :: acc) lines
    | _ => stringBody fuel rest (c :: acc) lines

/-- The rest of a regular expression after its opening `/`: its text and the rest of the
program; `none` when the line ends first. A `/` inside a bracket expression does not end it. -/
def regexBody : Nat → List Char → List Char → Bool → Option (String × List Char)
  | 0, _, _, _ => none
  | _, [], _, _ => none
  | fuel + 1, c :: rest, acc, inBracket =>
    match c, rest with
    | '\n', _ => none
    | '/', _ => if inBracket then regexBody fuel rest (c :: acc) true else some (String.ofList acc.reverse, rest)
    | '\\', '/' :: more => regexBody fuel more ('/' :: acc) inBracket
    | '\\', d :: more => regexBody fuel more (d :: '\\' :: acc) inBracket
    | '[', _ =>
      if inBracket then regexBody fuel rest (c :: acc) true
      else
        -- a `]` right after `[` or `[^` belongs to the bracket
        match rest with
        | '^' :: ']' :: more => regexBody fuel more (']' :: '^' :: '[' :: acc) true
        | ']' :: more => regexBody fuel more (']' :: '[' :: acc) true
        | _ => regexBody fuel rest (c :: acc) true
    | ']', _ => regexBody fuel rest (c :: acc) false
    | _, _ => regexBody fuel rest (c :: acc) inBracket

/-- The characters of a numeric constant at the front of some characters. -/
def numberChars (cs : List Char) : List Char :=
  let whole := cs.takeWhile Char.isDigit
  let rest := cs.drop whole.length
  let (frac, rest) := match rest with
    | '.' :: more =>
      let ds := more.takeWhile Char.isDigit
      ('.' :: ds, more.drop ds.length)
    | _ => ([], rest)
  let exp := match rest with
    | e :: more =>
      if e == 'e' || e == 'E' then
        let (sign, body) := match more with
          | '+' :: b => (['+'], b)
          | '-' :: b => (['-'], b)
          | b => ([], b)
        let ds := body.takeWhile Char.isDigit
        if ds.isEmpty then [] else e :: sign ++ ds
      else []
    | [] => []
  whole ++ frac ++ exp

/-- Whether a character may start a name. -/
def nameStart (c : Char) : Bool := c.isAlpha || c == '_'

/-- Cut a program into tokens, each with its line; the message and line of the first error. -/
def lex (text : String) : Except (String × Nat) (Array Lexed) :=
  go (text.length + 2) text.toList 1 .newline #[]
where
  go : Nat → List Char → Nat → Token → Array Lexed → Except (String × Nat) (Array Lexed)
    | 0, _, line, _, acc => .ok (acc.push { tok := .eof, line })
    | _, [], line, _, acc => .ok (acc.push { tok := .eof, line })
    | fuel + 1, c :: rest, line, prev, acc =>
      let emit (t : Token) (rest : List Char) (line' : Nat) :=
        go fuel rest line' t (acc.push { tok := t, line })
      match c with
      | ' ' | '\t' | '\r' => go fuel rest line prev acc
      | '\\' =>
        match rest with
        | '\n' :: more => go fuel more (line + 1) prev acc
        | '\r' :: '\n' :: more => go fuel more (line + 1) prev acc
        | _ => .error ("syntax error at or near \\", line)
      | '#' => go fuel (rest.dropWhile (· != '\n')) line prev acc
      | '\n' => emit .newline rest (line + 1)
      | ';' => emit .semi rest line
      | '{' => emit .lbrace rest line
      | '}' => emit .rbrace rest line
      | '(' => emit .lparen rest line
      | ')' => emit .rparen rest line
      | '[' => emit .lbracket rest line
      | ']' => emit .rbracket rest line
      | ',' => emit .comma rest line
      | '"' =>
        match stringBody (rest.length + 1) rest [] 0 with
        | some (s, after, lines) => go fuel after (line + lines) (.string s) (acc.push { tok := .string s, line })
        | none => .error ("runaway string constant \"" ++ String.ofList ((rest.takeWhile (· != '\n')).take 10) ++ " ...", line)
      | '/' =>
        if prev.endsOperand then
          match rest with
          | '=' :: more => emit (.op "/=") more line
          | _ => emit (.op "/") rest line
        else
          match regexBody (rest.length + 1) rest [] false with
          | some (r, after) => emit (.regex r) after line
          | none => .error ("runaway regular expression /" ++ String.ofList ((rest.takeWhile (· != '\n')).take 10) ++ " ...", line)
      | _ =>
        if c.isDigit || (c == '.' && (rest.head?.any Char.isDigit)) then
          let ds := numberChars (c :: rest)
          emit (.number (numberValue (String.ofList ds))) ((c :: rest).drop ds.length) line
        else if nameStart c then
          let n := (c :: rest).takeWhile fun d => d.isAlphanum || d == '_'
          let after := (c :: rest).drop n.length
          let word := String.ofList n
          let t : Token :=
            if keywords.contains word then
              (if word == "func" then .keyword "function" else .keyword word)
            else if builtinFunctions.contains word then .builtinName word
            else if after.head? == some '(' then .funcName word
            else .name word
          emit t after line
        else
          let cs := c :: rest
          match operators.find? (fun o => o.toList.isPrefixOf cs) with
          | some o =>
            let o' := if o == "**" then "^" else if o == "**=" then "^=" else o
            emit (.op o') (cs.drop o.length) line
          | none => .error ("syntax error at or near " ++ String.singleton c, line)

end Awk

end HostAgent.Shell
