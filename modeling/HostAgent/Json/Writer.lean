import HostAgent.Json.Value

/-!
# `HostAgent.Json.Writer` — JSON text, compact or indented

Fields are written in the order the object holds them. Strings keep every character but the
quote, the backslash and the controls below `0x20`: those are written `\"`, `\\`, `\b`, `\f`,
`\n`, `\r`, `\t`, or `\u00xx` with lower-case hex digits. Floats take their shortest decimal
(`Binary64.shortest`) laid out by `floatText`.
-/

namespace HostAgent.Json

open HostAgent.Decimal

/-- Lower-case hexadecimal digit. -/
def hexDigit (n : Nat) : Char :=
  if n < 10 then Char.ofNat (48 + n) else Char.ofNat (87 + n)

/-- The escaped form of one character inside a string literal. -/
def escapeChar (c : Char) : String :=
  if c == '"' then "\\\""
  else if c == '\\' then "\\\\"
  else if c == '\n' then "\\n"
  else if c == '\r' then "\\r"
  else if c == '\t' then "\\t"
  else if c.toNat == 8 then "\\b"
  else if c.toNat == 12 then "\\f"
  else if c.toNat < 32 then
    "\\u00" ++ String.singleton (hexDigit (c.toNat / 16)) ++ String.singleton (hexDigit (c.toNat % 16))
  else String.singleton c

/-- A string literal. -/
def quote (s : String) : String :=
  "\"" ++ String.join (s.toList.map escapeChar) ++ "\""

/-- `n` copies of a character. -/
def zeros (n : Nat) : String := String.ofList (List.replicate n '0')

/-- Layout of a float's shortest digits `d × 10 ^ k` (with `n` digits and `kk = n + k`):
positional with `.0` when `0 ≤ k` and `kk ≤ 16`; positional with a point inside when
`0 < kk ≤ 16`; `0.` and leading zeros when `-5 < kk ≤ 0`; otherwise one digit, a point, the rest
and `e` with the exponent `kk - 1` (no point when there is a single digit). -/
def floatText (x : Binary64) : String :=
  let sign := if x.negative then "-" else ""
  if !x.isFinite then "null"
  else if x.magnitude.mantissa == 0 then sign ++ "0.0"
  else
    let s := x.shortest
    let d := Nat.repr s.digits
    let n : Int := d.length
    let k := s.exponent
    let kk := n + k
    let body :=
      if 0 ≤ k ∧ kk ≤ 16 then d ++ zeros k.toNat ++ ".0"
      else if 0 < kk ∧ kk ≤ 16 then
        String.ofList (d.toList.take kk.toNat) ++ "." ++ String.ofList (d.toList.drop kk.toNat)
      else if -5 < kk ∧ kk ≤ 0 then "0." ++ zeros (-kk).toNat ++ d
      else
        let e := toString (kk - 1)
        if n == 1 then d ++ "e" ++ e
        else String.ofList (d.toList.take 1) ++ "." ++ String.ofList (d.toList.drop 1) ++ "e" ++ e
    sign ++ body

/-- The text of a number. -/
def Number.text : Number → String
  | .natural n => Nat.repr n
  | .negative n => "-" ++ Nat.repr n
  | .float x => floatText x

mutual
/-- Compact text: no blank between tokens. -/
def Value.compact : Value → String
  | .null => "null"
  | .bool b => if b then "true" else "false"
  | .num n => n.text
  | .str s => quote s
  | .arr items => "[" ++ Value.compactItems items ++ "]"
  | .obj fields => "\x7b" ++ Value.compactFields fields ++ "\x7d"

/-- Items separated by commas. -/
def Value.compactItems : List Value → String
  | [] => ""
  | [v] => v.compact
  | v :: rest => v.compact ++ "," ++ Value.compactItems rest

/-- Fields separated by commas. -/
def Value.compactFields : List (String × Value) → String
  | [] => ""
  | [(k, v)] => quote k ++ ":" ++ v.compact
  | (k, v) :: rest => quote k ++ ":" ++ v.compact ++ "," ++ Value.compactFields rest
end

/-- Indentation of a nesting level, two blanks a level. -/
def indent (level : Nat) : String := String.ofList (List.replicate (2 * level) ' ')

mutual
/-- Indented text: each item and field on a line of its own, two blanks a level, a blank after
the colon; empty containers stay `[]` and an empty object. -/
def Value.pretty (level : Nat) : Value → String
  | .arr [] => "[]"
  | .obj [] => "\x7b\x7d"
  | .arr items => "[\n" ++ Value.prettyItems (level + 1) items ++ "\n" ++ indent level ++ "]"
  | .obj fields => "\x7b\n" ++ Value.prettyFields (level + 1) fields ++ "\n" ++ indent level ++ "\x7d"
  | v => v.compact

/-- Items of an indented array. -/
def Value.prettyItems (level : Nat) : List Value → String
  | [] => ""
  | [v] => indent level ++ v.pretty level
  | v :: rest => indent level ++ v.pretty level ++ ",\n" ++ Value.prettyItems level rest

/-- Fields of an indented object. -/
def Value.prettyFields (level : Nat) : List (String × Value) → String
  | [] => ""
  | [(k, v)] => indent level ++ quote k ++ ": " ++ v.pretty level
  | (k, v) :: rest =>
    indent level ++ quote k ++ ": " ++ v.pretty level ++ ",\n" ++ Value.prettyFields level rest
end

end HostAgent.Json
