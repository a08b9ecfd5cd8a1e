/-!
# `HostAgent.Text.Utf8` — bytes read as UTF-8 text

`decodeLossy` reads every well-formed sequence as its character and replaces each maximal
ill-formed subpart by one U+FFFD: a byte that cannot start a sequence is one subpart, and a lead
byte with fewer continuation bytes than it announces forms one subpart with the continuation
bytes that do fit. The second byte after `E0`, `ED`, `F0` and `F4` has the narrower ranges that
rule out overlong forms, surrogates and code points above U+10FFFF.
-/

namespace HostAgent.Text

/-- The replacement character. -/
def replacement : Char := Char.ofNat 0xFFFD

/-- A continuation byte. -/
def isContinuation (b : UInt8) : Bool := 0x80 ≤ b && b ≤ 0xBF

/-- The range allowed for the byte after a lead byte. -/
def secondRange (lead : UInt8) : UInt8 × UInt8 :=
  if lead == 0xE0 then (0xA0, 0xBF)
  else if lead == 0xED then (0x80, 0x9F)
  else if lead == 0xF0 then (0x90, 0xBF)
  else if lead == 0xF4 then (0x80, 0x8F)
  else (0x80, 0xBF)

/-- How many bytes a lead byte announces, or `0` for a byte that starts nothing. -/
def sequenceLength (lead : UInt8) : Nat :=
  if lead < 0x80 then 1
  else if 0xC2 ≤ lead && lead ≤ 0xDF then 2
  else if 0xE0 ≤ lead && lead ≤ 0xEF then 3
  else if 0xF0 ≤ lead && lead ≤ 0xF4 then 4
  else 0

/-- The code point of a well-formed sequence. -/
def codePoint (bytes : List UInt8) : Nat :=
  match bytes with
  | [a] => a.toNat
  | [a, b] => (a.toNat % 32) * 64 + b.toNat % 64
  | [a, b, c] => ((a.toNat % 16) * 64 + b.toNat % 64) * 64 + c.toNat % 64
  | [a, b, c, d] => (((a.toNat % 8) * 64 + b.toNat % 64) * 64 + c.toNat % 64) * 64 + d.toNat % 64
  | _ => 0xFFFD

/-- How many of the bytes after `lead` continue its sequence, up to `need`. -/
def fitting (lead : UInt8) (need : Nat) (rest : List UInt8) : Nat :=
  match need, rest with
  | 0, _ => 0
  | _, [] => 0
  | need + 1, b :: more =>
    let (lo, hi) := secondRange lead
    if lo ≤ b && b ≤ hi then 1 + ((more.take need).takeWhile isContinuation).length
    else 0

/-- One step of decoding: the character and how many bytes it used (at least one). -/
def step (lead : UInt8) (rest : List UInt8) : Char × Nat :=
  let n := sequenceLength lead
  if n == 0 then (replacement, 1)
  else if n == 1 then (Char.ofNat lead.toNat, 1)
  else
    let fit := fitting lead (n - 1) rest
    if fit == n - 1 then (Char.ofNat (codePoint (lead :: rest.take (n - 1))), n)
    else (replacement, 1 + fit)

/-- Decode bytes, replacing ill-formed subparts. -/
def decodeBytes : Nat → List UInt8 → List Char
  | 0, _ => []
  | _, [] => []
  | fuel + 1, b :: rest =>
    let (c, used) := step b rest
    c :: decodeBytes fuel (rest.drop (used - 1))

/-- Bytes as text, with U+FFFD for what is not UTF-8. -/
def decodeLossy (bytes : ByteArray) : String :=
  String.ofList (decodeBytes bytes.size bytes.toList)

/-- Bytes as text, or `none` when they are not UTF-8. -/
def decodeStrict (bytes : ByteArray) : Option String := String.fromUTF8? bytes

/-- The UTF-8 bytes of a text. -/
def encode (s : String) : ByteArray := s.toUTF8

end HostAgent.Text
