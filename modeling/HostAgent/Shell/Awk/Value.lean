import HostAgent.Shell.Format
import HostAgent.Shell.Awk.Lex

/-!
# `HostAgent.Shell.Awk.Value` — the values of awk

A value is a number (a binary64 `Float`), a string, a string that came from the input (a field,
a line `getline` read, an element `split` made, an assignment on the command line), or the value
of a variable never set.

* A string from the input that **looks numeric** (blanks, a decimal number, blanks) compares as
  a number with other numbers; any other string compares as text (`compareValues`).
* A number becomes text (`numberText`) as the integer it is when it is integral and fits a 64-bit
  integer, through `CONVFMT` (or `OFMT` for `print`) otherwise.
* Text becomes a number (`textNumber`) the way the C library reads the front of it: blanks,
  then the longest number there, `0` when there is none.

`format` is `printf`: the directives of `HostAgent.Shell.Format` applied to values, a missing
argument being an error.
-/

namespace HostAgent.Shell

namespace Awk

open HostAgent.Decimal

/-- A value. -/
inductive Value where
  | num (x : Float)
  | str (s : String)
  /-- Text from the input. -/
  | strnum (s : String)
  /-- A variable never set: the empty string and zero. -/
  | uninit
  deriving Inhabited

/-- The blanks around a numeric string. -/
def isNumBlank (c : Char) : Bool := c == ' ' || c == '\t' || c == '\n' || c == '\r' ||
  c == Char.ofNat 11 || c == Char.ofNat 12

/-- Whether a text looks numeric: blanks, an optional sign, a decimal number with at least one
digit, blanks. -/
def looksNumeric (s : String) : Bool :=
  let cs := (s.toList.dropWhile isNumBlank).reverse.dropWhile isNumBlank |>.reverse
  let body := match cs with
    | '+' :: more | '-' :: more => more
    | _ => cs
  let n := numberChars body
  n.any Char.isDigit && n.length == body.length && !(body.head? == some 'e' || body.head? == some 'E')

/-- The number at the front of a text, as the C library reads it; `0` when there is none. -/
def textNumber (s : String) : Float :=
  Float.ofBits (Numeral.readFloat s).value.bits

/-- The pattern of a number. -/
def Float.binary (x : Float) : Binary64 := ⟨x.toBits⟩

/-- The integer a number is, when it is integral and fits a 64-bit integer. -/
def integral? (x : Float) : Option Int :=
  let b := Float.binary x
  if !b.isFinite then none
  else
    let (n, d) := b.magnitude.ratio
    if n % d != 0 then none
    else
      let v := n / d
      if b.negative then (if v ≤ Nat.pow 2 63 then some (-(v : Int)) else none)
      else if v < Nat.pow 2 63 then some v else none

/-- The integer part of a number, toward zero, kept within 64 bits. -/
def truncated (x : Float) : Int :=
  let b := Float.binary x
  if !b.isFinite then (if b.fraction != 0 then 0 else if b.negative then -(Nat.pow 2 63 : Int) else Nat.pow 2 63 - 1)
  else
    let (n, d) := b.magnitude.ratio
    let v := n / d
    let v := if v ≥ Nat.pow 2 63 then Nat.pow 2 63 - 1 else v
    if b.negative then -(v : Int) else v

/-- The number closest to an integer. -/
def ofInt (v : Int) : Float :=
  if v < 0 then -(Float.ofNat v.natAbs) else Float.ofNat v.toNat

/-- The bytes of one directive applied to a value. -/
def directiveText (d : Directive) (v : Value) (asText : Value → String) : List UInt8 :=
  let asNumber : Value → Float := fun v => match v with
    | .num x => x
    | .str s | .strnum s => textNumber s
    | .uninit => 0
  match d.letter with
  | 'd' | 'i' => d.integer (truncated (asNumber v)) 10 false true
  | 'o' | 'u' | 'x' | 'X' =>
    let t := truncated (asNumber v)
    let u : Int := if t < 0 then t + (Nat.pow 2 64 : Int) else t
    let base := if d.letter == 'o' then 8 else if d.letter == 'u' then 10 else 16
    d.integer u base (d.letter == 'X') false
  | 'e' | 'E' | 'f' | 'F' | 'g' | 'G' => d.floating (Float.binary (asNumber v))
  | 'c' =>
    let bytes : List UInt8 := match v with
      | .num x => [UInt8.ofNat ((truncated x) % 256).toNat]
      | other => (Octets.toBytes (asText other)).take 1
    d.pad [] bytes false
  | _ =>
    let bytes := Octets.toBytes (asText v)
    let bytes := match d.precision with
      | some p => bytes.take p
      | none => bytes
    d.pad [] bytes false

/-- The number of a value, as `printf` reads its numeric arguments. -/
def Value.asNumber : Value → Float
  | .num x => x
  | .str s | .strnum s => textNumber s
  | .uninit => 0

/-- Run a format over values, `asText` making text of a value for `%s` and `%c`: the text, or
the message of a missing argument or a bad directive. -/
def formatWith (asText : Value → String) (fmt : String) (args : List Value) :
    Except String String :=
  let missing := "not enough arguments passed to sprintf(\"" ++ fmt ++ "\")"
  let rec go : Nat → List UInt8 → List Value → List UInt8 → Except String (List UInt8)
    | 0, _, _, acc => .ok acc.reverse
    | _, [], _, acc => .ok acc.reverse
    | fuel + 1, b :: rest, args, acc =>
      if b != 37 then go fuel rest args (b :: acc)
      else match rest with
        | 37 :: more => go fuel more args (37 :: acc)
        | _ =>
          match readSpec rest with
          | none => .ok (acc.reverse ++ (b :: rest))
          | some (spec, more) =>
            let takeAmount (a : Amount) (args : List Value) : Except String (Option Int × List Value) :=
              match a with
              | .absent => .ok (none, args)
              | .given n => .ok (some n, args)
              | .fromArgument =>
                match args with
                | v :: others => .ok (some (truncated v.asNumber), others)
                | [] => .error missing
            match takeAmount spec.width args with
            | .error e => .error e
            | .ok (width, args) =>
              match takeAmount spec.precision args with
              | .error e => .error e
              | .ok (precision, args) =>
                if !"diouxXeEfFgGcs".toList.contains spec.letter then
                  .error ("bad conversion: " ++ spec.text)
                else
                  match args with
                  | [] => .error missing
                  | v :: others =>
                    let w := width.getD 0
                    let d : Directive :=
                      { leftAlign := spec.leftAlign || w < 0, zeroPad := spec.zeroPad,
                        plus := spec.plus, space := spec.space, alternate := spec.alternate,
                        width := w.natAbs,
                        precision := precision.bind fun p => if p < 0 then none else some p.toNat,
                        letter := spec.letter }
                    let bytes := directiveText d v asText
                    go fuel more others (bytes.reverse ++ acc)
  let bytes := Octets.toBytes fmt
  match go (bytes.length + 1) bytes args [] with
  | .ok out => .ok (Octets.ofBytes out)
  | .error e => .error e

/-- The text of a number: the integer it is, or the number through a format. -/
def numberText (fmt : String) (x : Float) : String :=
  match integral? x with
  | some v => toString v
  | none =>
    match formatWith (fun _ => "") fmt [.num x] with
    | .ok t => t
    | .error _ => toString x

/-- A value as text, numbers through `CONVFMT`. -/
def Value.text (convfmt : String) : Value → String
  | .num x => numberText convfmt x
  | .str s | .strnum s => s
  | .uninit => ""

/-- `printf`: a format over values, numbers made text through `CONVFMT`. -/
def format (convfmt : String) (fmt : String) (args : List Value) : Except String String :=
  formatWith (Value.text convfmt) fmt args

/-- A value as a number. -/
def Value.number (v : Value) : Float := v.asNumber

/-- Whether a value counts as a number in a comparison. -/
def Value.isNumeric : Value → Bool
  | .num _ | .uninit => true
  | .strnum s => looksNumeric s
  | .str _ => false

/-- Whether a value is true: a non-zero number, a non-empty string. -/
def Value.truth : Value → Bool
  | .num x => x != 0
  | .str s => !s.isEmpty
  | .strnum s => if looksNumeric s then textNumber s != 0 else !s.isEmpty
  | .uninit => false

/-- The order of two numbers; `none` when one is not a number. -/
def compareNumbers (a b : Float) : Option Ordering :=
  if a < b then some .lt else if a > b then some .gt else if a == b then some .eq else none

/-- Compare two values: as numbers when both are, as text otherwise. -/
def compareValues (convfmt : String) (a b : Value) : Option Ordering :=
  if a.isNumeric && b.isNumeric then compareNumbers a.number b.number
  else some (compare (a.text convfmt).toList (b.text convfmt).toList)

end Awk

end HostAgent.Shell
