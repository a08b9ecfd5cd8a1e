import HostAgent.Text.Utf8

/-!
# `HostAgent.Shell.Octets` — shell text as bytes

The shell works on bytes, not characters: `${#x}` counts bytes, `?` matches one byte, and
`printf '\303'` followed by `printf '\251'` writes the two bytes of one `é`. Shell text is
therefore kept as a `String` whose characters all lie below 256, one character for each byte
(octet text). Text comes in and goes out through the conversions here:

* `ofBytes` and `toBytes` — bytes and octet text, one for one, in both directions;
* `ofUnicode` — a character string (a file name, an environment value) as the octet text of its
  UTF-8 bytes;
* `toUnicode` — octet text read back as UTF-8, each ill-formed part replaced by U+FFFD.

`toBytes (ofBytes bs) = bs` for all bytes, so nothing is lost on the way through the shell.
-/

namespace HostAgent.Shell

namespace Octets

/-- The character that stands for a byte. -/
def ofByte (b : UInt8) : Char := Char.ofNat b.toNat

/-- The byte a character of octet text stands for. -/
def toByte (c : Char) : UInt8 := c.toNat.toUInt8

/-- Bytes as octet text. -/
def ofBytes (bs : List UInt8) : String := String.ofList (bs.map ofByte)

/-- The bytes of octet text. -/
def toBytes (s : String) : List UInt8 := s.toList.map toByte

/-- A byte array as octet text. -/
def ofByteArray (b : ByteArray) : String := ofBytes b.toList

/-- The bytes of octet text as a byte array. -/
def toByteArray (s : String) : ByteArray := ByteArray.mk (toBytes s).toArray

/-- A character string as the octet text of its UTF-8 bytes. -/
def ofUnicode (s : String) : String := ofByteArray s.toUTF8

/-- Octet text read as UTF-8, ill-formed parts replaced. -/
def toUnicode (s : String) : String := Text.decodeLossy (toByteArray s)

end Octets

end HostAgent.Shell
