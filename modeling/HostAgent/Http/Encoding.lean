import HostAgent.Decimal.Binary64
import HostAgent.Time.Duration

/-!
# `HostAgent.Http.Encoding` — the small formats of an HTTP request

* `base64` — the standard alphabet with `=` padding, for basic authorization.
* `formEncode` — a query value as a form: letters, digits and `*-._` stay, a blank becomes `+`,
  every other byte of the UTF-8 text becomes `%XX` with upper-case hex digits.
* `secondsText` — a duration as decimal seconds: the seconds and the nanoseconds over `10 ^ 9`
  each rounded to binary64, their sum rounded, then written with its shortest digits in positional
  notation, without a point for whole numbers (`0`, `0.001`, `1.5`, `42`).
* `isMediaType` — whether a text is a media type: a non-empty type of token characters, a slash,
  a subtype of token characters, then parameters `; name=value`, a value being a token or a
  quoted string.
-/

namespace HostAgent.Http

open HostAgent.Decimal HostAgent.Time

/-- The base64 alphabet. -/
def base64Alphabet : List Char :=
  "ABCDEFGHIJKLMNOPQRSTUVWXYZabcdefghijklmnopqrstuvwxyz0123456789+/".toList

/-- Bytes in base64 with padding. -/
def base64 : List UInt8 → String
  | a :: b :: c :: rest =>
    let n := (a.toNat <<< 16) ||| (b.toNat <<< 8) ||| c.toNat
    String.ofList ([18, 12, 6, 0].map fun s => base64Alphabet.getD ((n >>> s) % 64) '=') ++ base64 rest
  | [a, b] =>
    let n := (a.toNat <<< 16) ||| (b.toNat <<< 8)
    String.ofList ([18, 12, 6].map fun s => base64Alphabet.getD ((n >>> s) % 64) '=') ++ "="
  | [a] =>
    let n := a.toNat <<< 16
    String.ofList ([18, 12].map fun s => base64Alphabet.getD ((n >>> s) % 64) '=') ++ "=="
  | [] => ""

/-- Upper-case hexadecimal digit. -/
def upperHex (n : Nat) : Char := if n < 10 then Char.ofNat (48 + n) else Char.ofNat (55 + n)

/-- A text as a form value. -/
def formEncode (s : String) : String :=
  String.join (s.toUTF8.toList.map fun b =>
    let c := Char.ofNat b.toNat
    if c.isAlphanum || c == '*' || c == '-' || c == '.' || c == '_' then String.singleton c
    else if c == ' ' then "+"
    else String.ofList ['%', upperHex (b.toNat / 16), upperHex (b.toNat % 16)])

/-- The exact value of a finite binary64 number as a fraction. -/
def exactValue (x : Binary64) : Nat × Nat :=
  let f := x.magnitude
  if f.exponent ≥ 0 then (f.mantissa * Nat.pow 2 f.exponent.toNat, 1)
  else (f.mantissa, Nat.pow 2 (-f.exponent).toNat)

/-- A binary64 number written positionally with its shortest digits, no point for whole
numbers. -/
def positionalText (x : Binary64) : String :=
  if x.magnitude.mantissa == 0 then "0"
  else
    let s := x.shortest
    let d := Nat.repr s.digits
    let n : Int := d.length
    let kk := n + s.exponent
    if s.exponent ≥ 0 then d ++ String.ofList (List.replicate s.exponent.toNat '0')
    else if kk > 0 then
      String.ofList (d.toList.take kk.toNat) ++ "." ++ String.ofList (d.toList.drop kk.toNat)
    else "0." ++ String.ofList (List.replicate (-kk).toNat '0') ++ d

/-- A duration as decimal seconds. -/
def secondsText (d : Duration) : String :=
  let whole := (Binary64.ofRatio false d.secs 1).getD (Binary64.zero false)
  let part := (Binary64.ofRatio false d.nanos Duration.nanosPerSecond).getD (Binary64.zero false)
  let (a, da) := exactValue whole
  let (b, db) := exactValue part
  let sum := (Binary64.ofRatio false (a * db + b * da) (da * db)).getD (Binary64.zero false)
  positionalText sum

/-- A token character of a media type. -/
def isTokenByte (b : UInt8) : Bool :=
  let c := Char.ofNat b.toNat
  c.isAlphanum || "!#$%&'*+-.^_`|~".toList.contains c

/-- Where the reader of a media type stands. -/
inductive MediaState where
  | kind
  | subtype (start : Bool)
  | name (start : Bool)
  | value (start : Bool)
  | quoted (start : Bool)
  | afterQuote
  deriving DecidableEq

/-- Read the bytes of a media type from a state; `true` when they form one. -/
def mediaFrom : MediaState → Bool → List UInt8 → Bool
  | .kind, _, [] => false
  | .kind, first, b :: rest =>
    if b.toNat == '/'.toNat && !first then mediaFrom (.subtype true) false rest
    else isTokenByte b && mediaFrom .kind false rest
  | .subtype _, _, [] => true
  | .subtype start, _, b :: rest =>
    if b.toNat == ';'.toNat && !start then mediaFrom (.name true) false rest
    else isTokenByte b && mediaFrom (.subtype false) false rest
  | .name start, _, [] => start
  | .name start, _, b :: rest =>
    if b.toNat == ' '.toNat && start then mediaFrom (.name true) false rest
    else if b.toNat == '='.toNat && !start then mediaFrom (.value true) false rest
    else isTokenByte b && mediaFrom (.name false) false rest
  | .value _, _, [] => true
  | .value start, _, b :: rest =>
    if b.toNat == '"'.toNat && start then mediaFrom (.quoted true) false rest
    else if b.toNat == ';'.toNat && !start then mediaFrom (.name true) false rest
    else isTokenByte b && mediaFrom (.value false) false rest
  | .quoted _, _, [] => false
  | .quoted start, _, b :: rest =>
    if b.toNat == '"'.toNat && !start then mediaFrom .afterQuote false rest
    else b.toNat > 31 && b.toNat != 127 && mediaFrom (.quoted false) false rest
  | .afterQuote, _, [] => true
  | .afterQuote, _, b :: rest =>
    if b.toNat == ';'.toNat then mediaFrom (.name true) false rest
    else b.toNat == ' '.toNat && mediaFrom .afterQuote false rest

/-- Whether a text is a media type. -/
def isMediaType (s : String) : Bool :=
  s == "*/*" || mediaFrom .kind true s.toUTF8.toList

end HostAgent.Http
