import HostAgent.Json.Reader

/-!
# `HostAgent.Json.Struct` — reading a one-field struct straight from text

The remote service's answers to a status check are read as structs of one optional field
(`unregistered_at`, `total`), the way serde derives it, and not through a whole document:

* the text is an object or an array, surrounded by blanks only;
* in an object, the field's value is read as a value and every other field is skipped: its syntax
  is checked, but not its depth, the range of its numbers or the pairing of its surrogate
  escapes; the field named twice is refused, and keys are read in full;
* an array holds the field's value or nothing;
* a missing field is `none`.
-/

namespace HostAgent.Json

/-! ## Skipping a value -/

/-- Skip a string after its opening quote, as serde skips one it does not keep: raw control
characters and unknown escapes are refused, and a `\u` escape needs four hexadecimal digits, paired
or not. -/
def skipString : List Char → Except ReadError (List Char)
  | [] => .error .unexpectedEnd
  | '"' :: rest => .ok rest
  | '\\' :: 'u' :: a :: b :: c :: d :: rest =>
    if (hex4 [a, b, c, d]).isSome then skipString rest else .error .invalidEscape
  | '\\' :: 'u' :: _ => .error .invalidEscape
  | '\\' :: c :: rest =>
    if "\"\\/bfnrt".toList.contains c then skipString rest else .error .invalidEscape
  | ['\\'] => .error .unexpectedEnd
  | c :: rest => if c.toNat < 32 then .error .controlCharacter else skipString rest

/-- Drop the digits at the front. -/
def skipDigits (cs : List Char) : List Char := cs.dropWhile Char.isDigit

/-- Skip an exponent after its `e`: an optional sign, then at least one digit. -/
def skipExponent (cs : List Char) : Except ReadError (List Char) :=
  let unsigned := match cs with
    | '+' :: r | '-' :: r => r
    | r => r
  match unsigned with
  | c :: _ => if c.isDigit then .ok (skipDigits unsigned) else .error .invalidNumber
  | [] => .error .invalidNumber

/-- Skip what may follow an integer part: a point and at least one digit, then an exponent. -/
def skipFraction (cs : List Char) : Except ReadError (List Char) :=
  match cs with
  | '.' :: rest =>
    match rest with
    | c :: _ =>
      if !c.isDigit then .error .invalidNumber
      else match skipDigits rest with
        | e :: r => if e == 'e' || e == 'E' then skipExponent r else .ok (e :: r)
        | [] => .ok []
    | [] => .error .invalidNumber
  | e :: r => if e == 'e' || e == 'E' then skipExponent r else .ok (e :: r)
  | [] => .ok []

/-- Skip a number after its sign, checking its syntax only: a leading zero is alone. -/
def skipNumber (cs : List Char) : Except ReadError (List Char) :=
  match cs with
  | '0' :: rest =>
    match rest with
    | c :: _ => if c.isDigit then .error .invalidNumber else skipFraction rest
    | [] => .ok []
  | c :: rest => if c.isDigit then skipFraction (skipDigits rest) else .error .invalidNumber
  | [] => .error .invalidNumber

mutual
/-- Skip one value after leading blanks, at any depth. -/
def skipValue (fuel : Nat) (cs : List Char) : Except ReadError (List Char) :=
  match fuel with
  | 0 => .error .exhausted
  | fuel + 1 =>
    match skipBlanks cs with
    | [] => .error .unexpectedEnd
    | 'n' :: _ => expectWord "null".toList (skipBlanks cs)
    | 't' :: _ => expectWord "true".toList (skipBlanks cs)
    | 'f' :: _ => expectWord "false".toList (skipBlanks cs)
    | '"' :: rest => skipString rest
    | '-' :: rest => skipNumber rest
    | '[' :: rest =>
      match skipBlanks rest with
      | ']' :: r => .ok r
      | _ => skipItems fuel rest
    | '{' :: rest =>
      match skipBlanks rest with
      | '}' :: r => .ok r
      | _ => skipFields fuel rest
    | c :: rest => if c.isDigit then skipNumber (c :: rest) else .error (.unexpected c)

/-- Skip the items of an array after `[`. -/
def skipItems (fuel : Nat) (cs : List Char) : Except ReadError (List Char) :=
  match fuel with
  | 0 => .error .exhausted
  | fuel + 1 => do
    let r ← skipValue fuel cs
    match skipBlanks r with
    | ',' :: more => skipItems fuel more
    | ']' :: more => pure more
    | [] => throw .unexpectedEnd
    | c :: _ => throw (.unexpected c)

/-- Skip the fields of an object after its opening brace. -/
def skipFields (fuel : Nat) (cs : List Char) : Except ReadError (List Char) :=
  match fuel with
  | 0 => .error .exhausted
  | fuel + 1 =>
    match skipBlanks cs with
    | '"' :: rest => do
      let r ← skipString rest
      match skipBlanks r with
      | ':' :: more =>
        let r2 ← skipValue fuel more
        match skipBlanks r2 with
        | ',' :: more2 => skipFields fuel more2
        | '}' :: more2 => pure more2
        | [] => throw .unexpectedEnd
        | c :: _ => throw (.unexpected c)
      | [] => throw .unexpectedEnd
      | c :: _ => throw (.unexpected c)
    | [] => .error .unexpectedEnd
    | c :: _ => .error (.unexpected c)
end

/-! ## The struct -/

/-- Why a text is not the struct asked for. -/
inductive StructError where
  /-- The text is not JSON. -/
  | malformed (e : ReadError)
  /-- The document is neither an object nor an array. -/
  | notStruct
  /-- The field is named twice. -/
  | duplicateField (name : String)
  /-- An array holds more items than the struct has fields. -/
  | tooLong
  deriving Repr, DecidableEq

/-- The fields of the struct's object after its opening brace: the field `name` read as a value,
the others skipped; `seen` is its value so far. -/
def structFields (name : String) (fuel : Nat) (seen : Option Value) (cs : List Char) :
    Except StructError (Option Value × List Char) :=
  match fuel with
  | 0 => .error (.malformed .exhausted)
  | fuel + 1 =>
    match skipBlanks cs with
    | '"' :: rest => do
      let (k, r) ← (readStringBody (rest.length + 1) [] rest).mapError .malformed
      match skipBlanks r with
      | ':' :: more =>
        let (seen, r2) ← if k == name then
            match seen with
            | some _ => throw (.duplicateField name)
            | none => do
              let (v, r2) ← (readValue 1 fuel more).mapError .malformed
              pure (some v, r2)
          else do
            let r2 ← (skipValue fuel more).mapError .malformed
            pure (seen, r2)
        match skipBlanks r2 with
        | ',' :: more2 => structFields name fuel seen more2
        | '}' :: more2 => pure (seen, more2)
        | [] => throw (.malformed .unexpectedEnd)
        | c :: _ => throw (.malformed (.unexpected c))
      | [] => throw (.malformed .unexpectedEnd)
      | c :: _ => throw (.malformed (.unexpected c))
    | [] => .error (.malformed .unexpectedEnd)
    | c :: _ => .error (.malformed (.unexpected c))

/-- A text read as a struct whose one field is `name`: the field's value, `none` when absent. -/
def readOneField (name : String) (text : String) : Except StructError (Option Value) := do
  let cs := text.toList
  let fuel := 2 * cs.length + 4
  let (v, rest) ← match skipBlanks cs with
    | '{' :: rest =>
      match skipBlanks rest with
      | '}' :: r => pure (none, r)
      | _ => structFields name fuel none rest
    | '[' :: rest =>
      match skipBlanks rest with
      | ']' :: r => pure (none, r)
      | _ => do
        let (v, r) ← (readValue 1 fuel rest).mapError .malformed
        match skipBlanks r with
        | ']' :: r2 => pure (some v, r2)
        | [] => throw (.malformed .unexpectedEnd)
        | _ => throw .tooLong
    | [] => throw (.malformed .unexpectedEnd)
    | _ => throw .notStruct
  if (skipBlanks rest).isEmpty then pure v else throw (.malformed .trailing)

end HostAgent.Json
