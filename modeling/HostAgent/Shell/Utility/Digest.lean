import HostAgent.Shell.Utility.Core

/-!
# `HostAgent.Shell.Utility.Digest` — checksums of files

`md5sum`, `sha1sum` and `sha256sum` print one line per input, `digest  name` (`-` for the
standard input), the digest in lower-case hexadecimal; with `-c` they read such lines instead
and check each named file, printing `name: OK` or `name: FAILED`. `cksum` prints the POSIX
CRC of each input, its size and its name.

The digests follow their definitions: the message is padded with a one bit, zeros, and its
length in bits (little-endian for MD5, big-endian for the SHA functions), cut into 64-byte
blocks, and each block is folded into the state by the compression function, all arithmetic
on 32-bit words modulo 2^32.
-/

namespace HostAgent.Shell

open HostAgent.Host

namespace Utility

namespace Digest

/-- A word rotated left. -/
def rotl (x : UInt32) (n : UInt32) : UInt32 := (x <<< n) ||| (x >>> (32 - n))

/-- A word rotated right. -/
def rotr (x : UInt32) (n : UInt32) : UInt32 := (x >>> n) ||| (x <<< (32 - n))

/-- The bytes of a length in bits, eight of them, least significant first. -/
def lengthBytes (n : Nat) : List UInt8 :=
  (List.range 8).map fun i => UInt8.ofNat (n * 8 / Nat.pow 256 i % 256)

/-- A message padded to whole blocks: a `0x80` byte, zeros, and the eight bytes of its
length in bits (in the order `bigEndian` says). -/
def padded (bs : List UInt8) (bigEndian : Bool) : List UInt8 :=
  let zeros := (64 + 55 - bs.length % 64) % 64
  let len := lengthBytes bs.length
  bs ++ [0x80] ++ List.replicate zeros 0 ++ (if bigEndian then len.reverse else len)

/-- A message cut into blocks of 64 bytes. -/
def blocks (bs : List UInt8) : List (List UInt8) :=
  let rec go : Nat → List UInt8 → List (List UInt8)
    | 0, _ => []
    | _, [] => []
    | fuel + 1, rest => rest.take 64 :: go fuel (rest.drop 64)
  go (bs.length + 1) bs

/-- The sixteen words of a block, read little-endian or big-endian. -/
def words (block : List UInt8) (bigEndian : Bool) : Array UInt32 :=
  ((List.range 16).map fun i =>
    let b (k : Nat) : UInt32 := (block.getD (4 * i + k) 0).toUInt32
    if bigEndian then (b 0 <<< 24) ||| (b 1 <<< 16) ||| (b 2 <<< 8) ||| b 3
    else (b 3 <<< 24) ||| (b 2 <<< 16) ||| (b 1 <<< 8) ||| b 0).toArray

/-- A word as hexadecimal bytes, most significant first or last. -/
def wordHex (w : UInt32) (bigEndian : Bool) : String :=
  let bytes := (List.range 4).map fun i => (w >>> (8 * UInt32.ofNat i)) &&& 0xff
  let bytes := if bigEndian then bytes.reverse else bytes
  String.join (bytes.map fun b =>
    let t := String.ofList (Nat.toDigits 16 b.toNat)
    if t.length < 2 then "0" ++ t else t)

/-! ## MD5 -/

/-- The shift amounts of the MD5 rounds. -/
def md5Shifts : Array UInt32 :=
  #[7, 12, 17, 22, 7, 12, 17, 22, 7, 12, 17, 22, 7, 12, 17, 22,
    5, 9, 14, 20, 5, 9, 14, 20, 5, 9, 14, 20, 5, 9, 14, 20,
    4, 11, 16, 23, 4, 11, 16, 23, 4, 11, 16, 23, 4, 11, 16, 23,
    6, 10, 15, 21, 6, 10, 15, 21, 6, 10, 15, 21, 6, 10, 15, 21]

/-- The MD5 constants: the integer parts of `2^32 |sin (i + 1)|`. -/
def md5Constants : Array UInt32 :=
  #[0xd76aa478, 0xe8c7b756, 0x242070db, 0xc1bdceee, 0xf57c0faf, 0x4787c62a, 0xa8304613, 0xfd469501,
    0x698098d8, 0x8b44f7af, 0xffff5bb1, 0x895cd7be, 0x6b901122, 0xfd987193, 0xa679438e, 0x49b40821,
    0xf61e2562, 0xc040b340, 0x265e5a51, 0xe9b6c7aa, 0xd62f105d, 0x02441453, 0xd8a1e681, 0xe7d3fbc8,
    0x21e1cde6, 0xc33707d6, 0xf4d50d87, 0x455a14ed, 0xa9e3e905, 0xfcefa3f8, 0x676f02d9, 0x8d2a4c8a,
    0xfffa3942, 0x8771f681, 0x6d9d6122, 0xfde5380c, 0xa4beea44, 0x4bdecfa9, 0xf6bb4b60, 0xbebfbc70,
    0x289b7ec6, 0xeaa127fa, 0xd4ef3085, 0x04881d05, 0xd9d4d039, 0xe6db99e5, 0x1fa27cf8, 0xc4ac5665,
    0xf4292244, 0x432aff97, 0xab9423a7, 0xfc93a039, 0x655b59c3, 0x8f0ccc92, 0xffeff47d, 0x85845dd1,
    0x6fa87e4f, 0xfe2ce6e0, 0xa3014314, 0x4e0811a1, 0xf7537e82, 0xbd3af235, 0x2ad7d2bb, 0xeb86d391]

/-- Fold one block into the MD5 state. -/
def md5Block (st : UInt32 × UInt32 × UInt32 × UInt32) (block : List UInt8) :
    UInt32 × UInt32 × UInt32 × UInt32 :=
  let m := words block false
  let (a0, b0, c0, d0) := st
  let round (acc : UInt32 × UInt32 × UInt32 × UInt32) (i : Nat) : UInt32 × UInt32 × UInt32 × UInt32 :=
    let (a, b, c, d) := acc
    let (f, g) :=
      if i < 16 then ((b &&& c) ||| (~~~b &&& d), i)
      else if i < 32 then ((d &&& b) ||| (~~~d &&& c), (5 * i + 1) % 16)
      else if i < 48 then (b ^^^ c ^^^ d, (3 * i + 5) % 16)
      else (c ^^^ (b ||| ~~~d), (7 * i) % 16)
    let f := f + a + md5Constants.getD i 0 + m.getD g 0
    (d, b + rotl f (md5Shifts.getD i 0), b, c)
  let (a, b, c, d) := (List.range 64).foldl round (a0, b0, c0, d0)
  (a0 + a, b0 + b, c0 + c, d0 + d)

/-- The MD5 digest of a message, in hexadecimal. -/
def md5 (bs : List UInt8) : String :=
  let (a, b, c, d) := (blocks (padded bs false)).foldl md5Block
    (0x67452301, 0xefcdab89, 0x98badcfe, 0x10325476)
  wordHex a false ++ wordHex b false ++ wordHex c false ++ wordHex d false

/-! ## SHA-1 -/

/-- The eighty words of a SHA-1 block's schedule. -/
def sha1Schedule (block : List UInt8) : Array UInt32 :=
  (List.range 64).foldl (fun (w : Array UInt32) t =>
    let i := t + 16
    w.push (rotl (w.getD (i - 3) 0 ^^^ w.getD (i - 8) 0 ^^^ w.getD (i - 14) 0 ^^^ w.getD (i - 16) 0) 1))
    (words block true)

/-- Fold one block into the SHA-1 state. -/
def sha1Block (st : List UInt32) (block : List UInt8) : List UInt32 :=
  let w := sha1Schedule block
  let h (i : Nat) : UInt32 := st.getD i 0
  let round (acc : UInt32 × UInt32 × UInt32 × UInt32 × UInt32) (i : Nat) :
      UInt32 × UInt32 × UInt32 × UInt32 × UInt32 :=
    let (a, b, c, d, e) := acc
    let (f, k) : UInt32 × UInt32 :=
      if i < 20 then ((b &&& c) ||| (~~~b &&& d), 0x5a827999)
      else if i < 40 then (b ^^^ c ^^^ d, 0x6ed9eba1)
      else if i < 60 then ((b &&& c) ||| (b &&& d) ||| (c &&& d), 0x8f1bbcdc)
      else (b ^^^ c ^^^ d, 0xca62c1d6)
    let t := rotl a 5 + f + e + k + w.getD i 0
    (t, a, rotl b 30, c, d)
  let (a, b, c, d, e) := (List.range 80).foldl round (h 0, h 1, h 2, h 3, h 4)
  [h 0 + a, h 1 + b, h 2 + c, h 3 + d, h 4 + e]

/-- The SHA-1 digest of a message, in hexadecimal. -/
def sha1 (bs : List UInt8) : String :=
  let st := (blocks (padded bs true)).foldl sha1Block
    [0x67452301, 0xefcdab89, 0x98badcfe, 0x10325476, 0xc3d2e1f0]
  String.join (st.map fun w => wordHex w true)

/-! ## SHA-256 -/

/-- The SHA-256 round constants. -/
def sha256Constants : Array UInt32 :=
  #[0x428a2f98, 0x71374491, 0xb5c0fbcf, 0xe9b5dba5, 0x3956c25b, 0x59f111f1, 0x923f82a4, 0xab1c5ed5,
    0xd807aa98, 0x12835b01, 0x243185be, 0x550c7dc3, 0x72be5d74, 0x80deb1fe, 0x9bdc06a7, 0xc19bf174,
    0xe49b69c1, 0xefbe4786, 0x0fc19dc6, 0x240ca1cc, 0x2de92c6f, 0x4a7484aa, 0x5cb0a9dc, 0x76f988da,
    0x983e5152, 0xa831c66d, 0xb00327c8, 0xbf597fc7, 0xc6e00bf3, 0xd5a79147, 0x06ca6351, 0x14292967,
    0x27b70a85, 0x2e1b2138, 0x4d2c6dfc, 0x53380d13, 0x650a7354, 0x766a0abb, 0x81c2c92e, 0x92722c85,
    0xa2bfe8a1, 0xa81a664b, 0xc24b8b70, 0xc76c51a3, 0xd192e819, 0xd6990624, 0xf40e3585, 0x106aa070,
    0x19a4c116, 0x1e376c08, 0x2748774c, 0x34b0bcb5, 0x391c0cb3, 0x4ed8aa4a, 0x5b9cca4f, 0x682e6ff3,
    0x748f82ee, 0x78a5636f, 0x84c87814, 0x8cc70208, 0x90befffa, 0xa4506ceb, 0xbef9a3f7, 0xc67178f2]

/-- The sixty-four words of a SHA-256 block's schedule. -/
def sha256Schedule (block : List UInt8) : Array UInt32 :=
  (List.range 48).foldl (fun (w : Array UInt32) t =>
    let i := t + 16
    let x := w.getD (i - 15) 0
    let y := w.getD (i - 2) 0
    let s0 := rotr x 7 ^^^ rotr x 18 ^^^ (x >>> 3)
    let s1 := rotr y 17 ^^^ rotr y 19 ^^^ (y >>> 10)
    w.push (w.getD (i - 16) 0 + s0 + w.getD (i - 7) 0 + s1))
    (words block true)

/-- Fold one block into the SHA-256 state. -/
def sha256Block (st : List UInt32) (block : List UInt8) : List UInt32 :=
  let w := sha256Schedule block
  let round (acc : List UInt32) (i : Nat) : List UInt32 :=
    match acc with
    | [a, b, c, d, e, f, g, h] =>
      let s1 := rotr e 6 ^^^ rotr e 11 ^^^ rotr e 25
      let ch := (e &&& f) ^^^ (~~~e &&& g)
      let t1 := h + s1 + ch + sha256Constants.getD i 0 + w.getD i 0
      let s0 := rotr a 2 ^^^ rotr a 13 ^^^ rotr a 22
      let maj := (a &&& b) ^^^ (a &&& c) ^^^ (b &&& c)
      let t2 := s0 + maj
      [t1 + t2, a, b, c, d + t1, e, f, g]
    | other => other
  let out := (List.range 64).foldl round st
  (st.zip out).map fun (x, y) => x + y

/-- The SHA-256 digest of a message, in hexadecimal. -/
def sha256 (bs : List UInt8) : String :=
  let st := (blocks (padded bs true)).foldl sha256Block
    [0x6a09e667, 0xbb67ae85, 0x3c6ef372, 0xa54ff53a, 0x510e527f, 0x9b05688c, 0x1f83d9ab, 0x5be0cd19]
  String.join (st.map fun w => wordHex w true)

/-! ## The POSIX CRC -/

/-- The CRC of one byte value, polynomial `0x04C11DB7`, most significant bit first. -/
def crcEntry (i : Nat) : UInt32 :=
  (List.range 8).foldl (fun (c : UInt32) _ =>
    if c &&& 0x80000000 != 0 then (c <<< 1) ^^^ 0x04c11db7 else c <<< 1) (UInt32.ofNat i <<< 24)

/-- The table of byte CRCs. -/
def crcTable : Array UInt32 := ((List.range 256).map crcEntry).toArray

/-- Feed one byte to the CRC. -/
def crcStep (crc : UInt32) (b : UInt8) : UInt32 :=
  (crc <<< 8) ^^^ crcTable.getD ((crc >>> 24) ^^^ b.toUInt32).toNat 0

/-- The bytes of a length, least significant first, as few as it needs. -/
def lengthOctets (n : Nat) : List UInt8 :=
  let rec go : Nat → Nat → List UInt8
    | 0, _ => []
    | fuel + 1, m => if m == 0 then [] else UInt8.ofNat (m % 256) :: go fuel (m / 256)
  go 9 n

/-- The POSIX CRC of a message: the bytes, then the bytes of its length, the result
complemented. -/
def posixCrc (bs : List UInt8) : Nat :=
  let crc := (bs ++ lengthOctets bs.length).foldl crcStep 0
  (~~~crc).toNat

end Digest

/-- Print a digest line for each input, or (`-c`) check the lines of each input. -/
def digestUtility (hash : List UInt8 → String) (inv : Invocation) : UtilM :=
  withOptions inv { opts := [Getopt.flag "b" 'b' "binary", Getopt.flag "c" 'c' "check",
      Getopt.flag "t" 't' "text", Getopt.longFlag "tag" "tag", Getopt.flag "z" 'z' "zero",
      Getopt.longFlag "quiet" "quiet", Getopt.longFlag "status" "status", Getopt.flag "w" 'w' "warn",
      Getopt.longFlag "strict" "strict", Getopt.longFlag "ignore-missing" "ignore-missing"] ++
      Getopt.standard } 1 fun p => do
    let names := if p.operands.isEmpty then ["-"] else p.operands
    let mut status := 0
    if !p.has "c" then
      for n in names do
        match ← readSource n with
        | .ok bs => emitText (hash bs ++ (if p.has "b" then " *" else "  ") ++ n ++ "\n")
        | .error e =>
          complain inv (plainReport n e)
          status := 1
      return (← closeOutput inv status)
    let mut failed := 0
    let mut unread := 0
    for n in names do
      match ← readSource n with
      | .error e =>
        complain inv (plainReport n e)
        status := 1
      | .ok bs =>
        for line in (Octets.ofBytes bs).splitOn "\n" do
          if line.isEmpty then continue
          let digest := String.ofList (line.toList.takeWhile (· != ' '))
          let rest := line.toList.drop digest.length
          let file := match rest with
            | ' ' :: ' ' :: f => some (String.ofList f)
            | ' ' :: '*' :: f => some (String.ofList f)
            | _ => none
          match file with
          | none => status := 1
          | some f =>
            match ← readSource f with
            | .error e =>
              complain inv (plainReport f e)
              if !p.has "status" then emitText (f ++ ": FAILED open or read\n")
              unread := unread + 1
            | .ok data =>
              let ok := hash data == digest.toLower
              if !ok then failed := failed + 1
              if !p.has "status" && !(ok && p.has "quiet") then
                emitText (f ++ (if ok then ": OK\n" else ": FAILED\n"))
    if unread > 0 && !p.has "status" then
      complain inv ("WARNING: " ++ toString unread ++ " listed file" ++
        (if unread == 1 then " could" else "s could") ++ " not be read")
    if failed > 0 && !p.has "status" then
      complain inv ("WARNING: " ++ toString failed ++ " computed checksum" ++
        (if failed == 1 then " did" else "s did") ++ " NOT match")
    closeOutput inv (if failed > 0 || unread > 0 then 1 else status)

/-- `cksum`: the CRC, size and name of each input (no name for the standard input). -/
def cksum (inv : Invocation) : UtilM :=
  withOptions inv { opts := Getopt.standard } 1 fun p => do
    let mut status := 0
    for n in (if p.operands.isEmpty then ["-"] else p.operands) do
      match ← readSource n with
      | .ok bs =>
        emitText (toString (Digest.posixCrc bs) ++ " " ++ toString bs.length ++
          (if p.operands.isEmpty then "" else " " ++ n) ++ "\n")
      | .error e =>
        complain inv (plainReport n e)
        status := 1
    closeOutput inv status

end Utility

end HostAgent.Shell
