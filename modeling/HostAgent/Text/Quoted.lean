import HostAgent.Text.Escaped

/-!
# `HostAgent.Text.Quoted` — strings in their debugging form

`debugQuote` writes a string between double quotes with `\t`, `\r`, `\n`, `\\`, `\"` and `\0` for
those characters, and `\u{h}` (lower-case hex, no leading zeros) for the characters `isEscaped` names; every other
character stands as itself.
-/

namespace HostAgent.Text

/-- Lower-case hex digits of a number, without leading zeros. -/
def hexDigits (n : Nat) : String :=
  String.ofList ((Nat.toDigits 16 n).map Char.toLower)

/-- The debugging form of one character inside a quoted string. -/
def debugChar (c : Char) : String :=
  if c == '\t' then "\\t"
  else if c == '\r' then "\\r"
  else if c == '\n' then "\\n"
  else if c == '\\' then "\\\\"
  else if c == '"' then "\\\""
  else if c.toNat == 0 then "\\0"
  else if isEscaped c.toNat then "\\u\x7b" ++ hexDigits c.toNat ++ "\x7d"
  else String.singleton c

/-- A string in its debugging form. -/
def debugQuote (s : String) : String := "\"" ++ String.join (s.toList.map debugChar) ++ "\""

end HostAgent.Text
