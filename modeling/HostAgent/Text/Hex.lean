/-!
# `HostAgent.Text.Hex` — bytes as hexadecimal text

`Hex.encode` writes two lower-case digits per byte; `Hex.decode?` reads pairs of digits of
either case back, and refuses an odd count or any other character.
-/

namespace HostAgent.Text.Hex

/-- The lower-case digit of a value below 16. -/
def digit (n : Nat) : Char := if n < 10 then Char.ofNat (48 + n) else Char.ofNat (87 + n)

/-- The value of a hexadecimal digit. -/
def value? (c : Char) : Option Nat :=
  if '0' ≤ c ∧ c ≤ '9' then some (c.toNat - 48)
  else if 'a' ≤ c ∧ c ≤ 'f' then some (c.toNat - 87)
  else if 'A' ≤ c ∧ c ≤ 'F' then some (c.toNat - 55)
  else none

/-- Two digits for one byte. -/
def ofByte (b : UInt8) : String :=
  String.ofList [digit (b.toNat / 16), digit (b.toNat % 16)]

/-- Bytes as lower-case hexadecimal text. -/
def encode (bytes : List UInt8) : String := String.join (bytes.map ofByte)

/-- Pairs of digits back to bytes. -/
def decodeChars : List Char → Option (List UInt8)
  | [] => some []
  | a :: b :: rest => do
    let hi ← value? a
    let lo ← value? b
    let tail ← decodeChars rest
    pure (UInt8.ofNat (hi * 16 + lo) :: tail)
  | [_] => none

/-- Hexadecimal text back to bytes. -/
def decode? (s : String) : Option ByteArray := (decodeChars s.toList).map List.toByteArray

end HostAgent.Text.Hex
