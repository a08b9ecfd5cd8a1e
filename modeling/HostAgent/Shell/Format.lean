import HostAgent.Shell.Numeral
import HostAgent.Shell.Octets
import HostAgent.Decimal.Fixed

/-!
# `HostAgent.Shell.Format` — the text of `echo` and `printf`

Both builtins write bytes: their arguments are octet text (`HostAgent.Shell.Octets`), an octal
escape such as `\303` is one byte, and every other byte is copied as it stands.

* Backslash escapes (`escape`): `\\`, `\a`, `\b`, `\f`, `\n`, `\r`, `\t`, `\v`, and one to three
  octal digits for a byte (its value taken modulo 256); before any other character the backslash
  stays and the character is read normally.
* `echo` and the `%b` conversion also stop all output at `\c`, and let `\0` lead up to three more
  octal digits (`expandEscapes`).
* `printf` reads its format with the escapes above and the conversions `%s`, `%b`, `%c`, `%d`,
  `%i`, `%u`, `%o`, `%x`, `%X`, `%e`, `%E`, `%f`, `%F`, `%g`, `%G` and `%%`, with the flags
  `-`, `0`, `+`, space and `#`, a width and a precision (either may be `*`, taken from the
  arguments); while arguments are left after a pass that used some, it runs the format again,
  and a missing argument counts as empty (or zero).
* A numeric argument is read as the C library reads it (`HostAgent.Shell.Numeral`); one that is
  not a number, not completely converted or out of range is reported, and what was read is used.
  A quote in front stands for the code of the character after it. A directive that is not
  understood ends the output.
-/

namespace HostAgent.Shell

/-- A byte that is an octal digit. -/
def isOctal (b : UInt8) : Bool := 48 ≤ b && b ≤ 55

/-- The value of the octal digits at the front (at most three) and what follows them. -/
def octalValue (bs : List UInt8) : Nat × List UInt8 :=
  let digits := (bs.take 3).takeWhile isOctal
  (digits.foldl (fun v d => 8 * v + (d.toNat - 48)) 0, bs.drop digits.length)

/-- One escape after a backslash: the byte it stands for and what follows, or `none` when the
backslash stands for itself. -/
def escape (bs : List UInt8) : Option (UInt8 × List UInt8) :=
  match bs with
  | 92 :: rest => some (92, rest)
  | 97 :: rest => some (7, rest)
  | 98 :: rest => some (8, rest)
  | 102 :: rest => some (12, rest)
  | 110 :: rest => some (10, rest)
  | 114 :: rest => some (13, rest)
  | 116 :: rest => some (9, rest)
  | 118 :: rest => some (11, rest)
  | b :: _ =>
    if isOctal b then
      let (v, rest) := octalValue bs
      some ((v % 256).toUInt8, rest)
    else none
  | [] => none

/-- Expand the escapes of `echo` and `%b`: the bytes, and whether `\c` stopped the output. -/
def expandEscapes : Nat → List UInt8 → List UInt8 × Bool
  | 0, _ => ([], false)
  | _, [] => ([], false)
  | fuel + 1, 92 :: rest =>
    match rest with
    | 99 :: _ => ([], true)
    | 48 :: more =>
      let (v, after) := octalValue more
      let (tail, stop) := expandEscapes fuel after
      ((v % 256).toUInt8 :: tail, stop)
    | _ =>
      match escape rest with
      | some (b, after) =>
        let (tail, stop) := expandEscapes fuel after
        (b :: tail, stop)
      | none =>
        let (tail, stop) := expandEscapes fuel rest
        (92 :: tail, stop)
  | fuel + 1, b :: rest =>
    let (tail, stop) := expandEscapes fuel rest
    (b :: tail, stop)

/-- The bytes `echo` writes for its arguments, and whether `\c` stopped it. A first argument
`-n` drops the final newline. -/
def echoBytes (args : List String) : List UInt8 :=
  let (newline, args) := match args with
    | "-n" :: rest => (false, rest)
    | _ => (true, args)
  let rec go : List String → List UInt8
    | [] => if newline then [10] else []
    | [a] =>
      let bs := Octets.toBytes a
      let (out, stop) := expandEscapes (bs.length + 1) bs
      if stop then out else out ++ (if newline then [10] else [])
    | a :: more =>
      let bs := Octets.toBytes a
      let (out, stop) := expandEscapes (bs.length + 1) bs
      if stop then out else out ++ [32] ++ go more
  go args

/-- How a width or a precision is given. -/
inductive Amount where
  | absent
  | given (n : Nat)
  /-- `*`: taken from the next argument. -/
  | fromArgument
  deriving DecidableEq, Repr

/-- A directive of `printf` as written: flags, width, precision and the conversion letter. -/
structure DirectiveText where
  leftAlign : Bool := false
  zeroPad : Bool := false
  plus : Bool := false
  space : Bool := false
  alternate : Bool := false
  width : Amount := .absent
  precision : Amount := .absent
  letter : Char
  /-- The directive's text, from `%` through its letter. -/
  text : String

/-- A directive with its width and precision known. -/
structure Directive where
  leftAlign : Bool := false
  zeroPad : Bool := false
  plus : Bool := false
  space : Bool := false
  alternate : Bool := false
  width : Nat := 0
  precision : Option Nat := none
  letter : Char

/-- Pad a converted value to the directive's width: `lead` is its sign or prefix, which zeros
go after when `zeros` allows them. -/
def Directive.pad (d : Directive) (lead body : List UInt8) (zeros : Bool) : List UInt8 :=
  let size := lead.length + body.length
  if size ≥ d.width then lead ++ body
  else
    let fill := d.width - size
    if d.leftAlign then lead ++ body ++ List.replicate fill 32
    else if d.zeroPad && zeros then lead ++ List.replicate fill 48 ++ body
    else List.replicate fill 32 ++ lead ++ body

/-- The sign written in front of a number: `-`, or `+` or a space when the flags ask. -/
def Directive.sign (d : Directive) (negative : Bool) : List UInt8 :=
  if negative then [45] else if d.plus then [43] else if d.space then [32] else []

/-- Digits of a number in a base, upper-case letters when asked. -/
def digitsIn (base : Nat) (upper : Bool) (n : Nat) : String :=
  let ds := Nat.toDigits base n
  String.ofList (if upper then ds.map Char.toUpper else ds)

/-- The bytes of an integer conversion: `signed` for `%d` and `%i`, a base and letter case for
the others. The precision is the least number of digits (none at all for zero at precision
zero); the `0` flag counts only without a precision. -/
def Directive.integer (d : Directive) (value : Int) (base : Nat) (upper signed : Bool) :
    List UInt8 :=
  let magnitude := if signed then value.natAbs else value.toNat
  let digits := match d.precision with
    | some 0 => if magnitude == 0 then "" else digitsIn base upper magnitude
    | some p =>
      let t := digitsIn base upper magnitude
      String.ofList (List.replicate (p - t.length) '0') ++ t
    | none => digitsIn base upper magnitude
  let digits := if d.alternate && base == 8 && !digits.startsWith "0" then "0" ++ digits else digits
  let lead : List UInt8 :=
    if signed then d.sign (value < 0)
    else if d.alternate && base == 16 && magnitude != 0 then (if upper then [48, 88] else [48, 120])
    else []
  d.pad lead (Octets.toBytes digits) d.precision.isNone

/-- The bytes of a floating conversion (`e`, `f`, `g` or their capitals). -/
def Directive.floating (d : Directive) (x : Decimal.Binary64) : List UInt8 :=
  let upper := d.letter.isUpper
  let lower := d.letter.toLower
  let lead := d.sign x.negative
  if !x.isFinite then
    let word := if x.fraction == 0 then "inf" else "nan"
    d.pad lead (Octets.toBytes (if upper then word.toUpper else word)) false
  else
    let (num, den) := x.magnitude.ratio
    let p := d.precision.getD 6
    let text := match lower with
      | 'f' =>
        let t := Decimal.fixed num den p
        if d.alternate && p == 0 then t ++ "." else t
      | 'e' =>
        let (digits, e) := Decimal.scientific num den p
        (if d.alternate && p == 0 then digits ++ "." else digits) ++ Decimal.exponentText upper e
      | _ => Decimal.general num den p upper d.alternate
    d.pad lead (Octets.toBytes text) true

/-- The result of running a format: bytes written, diagnostics, and whether `\c` stopped it. -/
structure Printed where
  bytes : List UInt8 := []
  errors : List String := []
  stopped : Bool := false
  /-- A directive was not understood, which ends `printf` with status 2. -/
  invalid : Bool := false

/-- Read the flags, width, precision and letter of a directive after `%`, with the format
after it; `none` when the format ends first. -/
def readSpec (fmt : List UInt8) : Option (DirectiveText × List UInt8) :=
  let isFlag (b : UInt8) : Bool := b == 45 || b == 48 || b == 32 || b == 43 || b == 35
  let isDigit (b : UInt8) : Bool := 48 ≤ b && b ≤ 57
  let number (ds : List UInt8) : Nat := ds.foldl (fun v d => 10 * v + (d.toNat - 48)) 0
  let flags := fmt.takeWhile isFlag
  let rest := fmt.drop flags.length
  let (width, rest) := match rest with
    | 42 :: more => (Amount.fromArgument, more)
    | _ =>
      let ds := rest.takeWhile isDigit
      (if ds.isEmpty then Amount.absent else .given (number ds), rest.drop ds.length)
  let (precision, rest) := match rest with
    | 46 :: 42 :: more => (Amount.fromArgument, more)
    | 46 :: more =>
      let ds := more.takeWhile isDigit
      (Amount.given (number ds), more.drop ds.length)
    | _ => (Amount.absent, rest)
  match rest with
  | c :: more =>
    let written := fmt.take (fmt.length - more.length)
    let text := Octets.ofBytes (37 :: written)
    some ({ leftAlign := flags.contains 45, zeroPad := flags.contains 48, plus := flags.contains 43,
            space := flags.contains 32, alternate := flags.contains 35, width, precision,
            letter := Char.ofNat c.toNat, text }, more)
  | [] => none

/-- The diagnostic for an argument read as a number, if any: nothing was read, not all of it
was, or the value was out of range. -/
def conversionWarning (arg : String) (used : Nat) (outOfRange : Bool) : List String :=
  if used < arg.length then
    if used == 0 then [arg ++ ": expected numeric value"]
    else [arg ++ ": not completely converted"]
  else if outOfRange then [arg ++ ": Numerical result out of range"]
  else []

/-- The first byte after a leading quote, for a numeric argument written `'c` or `"c`. -/
def quotedCode (arg : String) : Option Nat :=
  match Octets.toBytes arg with
  | 39 :: b :: _ | 34 :: b :: _ => some b.toNat
  | [39] | [34] => some 0
  | _ => none

/-- The next argument as an integer, with its diagnostics and the arguments after it. -/
def integerArgument (signed : Bool) (args : List String) : Int × List String × List String :=
  match args with
  | [] => (0, [], [])
  | a :: rest =>
    match quotedCode a with
    | some c => (c, [], rest)
    | none =>
      let n := Numeral.readInteger signed a
      (n.value, conversionWarning a n.used n.outOfRange, rest)

/-- The next argument as a floating value, with its diagnostics and the arguments after it. -/
def floatArgument (args : List String) : Decimal.Binary64 × List String × List String :=
  match args with
  | [] => (Decimal.Binary64.zero false, [], [])
  | a :: rest =>
    match quotedCode a with
    | some c => ((Decimal.Binary64.ofDecimal false c 0).getD (Decimal.Binary64.zero false), [], rest)
    | none =>
      let n := Numeral.readFloat a
      (n.value, conversionWarning a n.used n.outOfRange, rest)

/-- Settle a directive's width and precision, taking `*` amounts from the arguments: the
directive, diagnostics and the arguments left. A negative width aligns left; a negative
precision counts as none. -/
def DirectiveText.settle (spec : DirectiveText) (args : List String) : Directive × List String × List String :=
  let (width, left, warn1, args) := match spec.width with
    | .fromArgument =>
      let (v, w, rest) := integerArgument true args
      (v.natAbs, decide (v < 0), w, rest)
    | .given n => (n, false, [], args)
    | .absent => (0, false, [], args)
  let (precision, warn2, args) := match spec.precision with
    | .fromArgument =>
      let (v, w, rest) := integerArgument true args
      ((if v < 0 then none else some v.toNat), w, rest)
    | .given n => (some n, [], args)
    | .absent => (none, [], args)
  ({ leftAlign := spec.leftAlign || left, zeroPad := spec.zeroPad, plus := spec.plus,
     space := spec.space, alternate := spec.alternate, width, precision, letter := spec.letter },
   warn1 ++ warn2, args)

/-- One pass of a format over arguments: what it printed and the arguments left. -/
def formatPass (fuel : Nat) (fmt : List UInt8) (args : List String) (acc : Printed) :
    Printed × List String :=
  match fuel with
  | 0 => (acc, args)
  | fuel + 1 =>
    match fmt with
    | [] => (acc, args)
    | 92 :: rest =>
      match escape rest with
      | some (b, more) => formatPass fuel more args { acc with bytes := acc.bytes ++ [b] }
      | none => formatPass fuel rest args { acc with bytes := acc.bytes ++ [92] }
    | 37 :: 37 :: rest => formatPass fuel rest args { acc with bytes := acc.bytes ++ [37] }
    | 37 :: rest =>
      match readSpec rest with
      | none => ({ acc with errors := acc.errors ++ ["missing format character"], invalid := true }, args)
      | some (spec, more) =>
        let (d, warnings, args) := spec.settle args
        let acc := { acc with errors := acc.errors ++ warnings }
        let (arg, others) := match args with
          | a :: r => (a, r)
          | [] => ("", [])
        let emit (bytes : List UInt8) (errors : List String) (left : List String) :
            Printed × List String :=
          formatPass fuel more left
            { acc with bytes := acc.bytes ++ bytes, errors := acc.errors ++ errors }
        match d.letter with
        | 's' =>
          let body := Octets.toBytes arg
          let body := match d.precision with
            | some p => body.take p
            | none => body
          emit (d.pad [] body false) [] others
        | 'b' =>
          let bs := Octets.toBytes arg
          let (body, stop) := expandEscapes (bs.length + 1) bs
          let body := match d.precision with
            | some p => body.take p
            | none => body
          if stop then ({ acc with bytes := acc.bytes ++ d.pad [] body false, stopped := true }, [])
          else emit (d.pad [] body false) [] others
        | 'c' =>
          let body := match Octets.toBytes arg with
            | b :: _ => [b]
            | [] => [0]
          emit (d.pad [] body false) [] others
        | 'd' | 'i' =>
          let (v, w, left) := integerArgument true args
          emit (d.integer v 10 false true) w left
        | 'u' | 'o' | 'x' | 'X' =>
          let (v, w, left) := integerArgument false args
          let base := if d.letter == 'u' then 10 else if d.letter == 'o' then 8 else 16
          emit (d.integer v base (d.letter == 'X') false) w left
        | 'e' | 'E' | 'f' | 'F' | 'g' | 'G' =>
          let (x, w, left) := floatArgument args
          emit (d.floating x) w left
        | _ => ({ acc with errors := acc.errors ++ [spec.text ++ ": invalid directive"],
                           invalid := true }, args)
    | b :: rest => formatPass fuel rest args { acc with bytes := acc.bytes ++ [b] }

/-- What `printf format args...` writes: the format runs again while arguments are left and the
last pass used some. -/
def printfBytes (format : String) (args : List String) : Printed :=
  let fmt := Octets.toBytes format
  let rec loop : Nat → List String → Printed → Printed
    | 0, _, acc => acc
    | n + 1, rest, acc =>
      let (p, left) := formatPass (4 * fmt.length + 4) fmt rest acc
      if p.stopped || p.invalid || left.isEmpty || left.length == rest.length then p
      else loop n left p
  loop (args.length + 1) args {}

end HostAgent.Shell
