import HostAgent.Decimal.Binary64

/-!
# `HostAgent.Json.Value` — JSON documents as the agent reads and writes them

A number keeps the kind it was read as: an unsigned integer below `2 ^ 64`, a negative integer
not below `-2 ^ 63`, or a binary64 value by its bits. The two integer kinds print exactly and a
float always prints with a point or an exponent, so `1000` and `1e3` stay apart.

An object is a list of fields in the order they are to be written. Documents that the reader
builds hold their fields sorted by key with the last duplicate kept (`Value.insertSorted`);
records that the agent writes list their fields in declaration order.
-/

namespace HostAgent.Json

open HostAgent.Decimal

/-- A JSON number: the integer kinds are exact, everything else is a binary64 value. -/
inductive Number where
  /-- An integer `0 ≤ n < 2 ^ 64`. -/
  | natural (n : Nat)
  /-- The integer `-n`, for `1 ≤ n ≤ 2 ^ 63`. -/
  | negative (n : Nat)
  /-- A binary64 value. -/
  | float (x : Binary64)
  deriving Repr, DecidableEq

/-- A JSON value. -/
inductive Value where
  | null
  | bool (b : Bool)
  | num (n : Number)
  | str (s : String)
  | arr (items : List Value)
  | obj (fields : List (String × Value))
  deriving Repr, Inhabited

namespace Value

/-- An integer, in the integer kind it belongs to. -/
def ofInt (i : Int) : Value :=
  if i ≥ 0 then .num (.natural i.toNat) else .num (.negative (-i).toNat)

/-- A natural number. -/
def ofNat (n : Nat) : Value := .num (.natural n)

/-- An optional string, `null` when absent. -/
def ofOption (s : Option String) : Value :=
  match s with
  | some t => .str t
  | none => .null

/-- A list of strings. -/
def ofStrings (xs : List String) : Value := .arr (xs.map .str)

/-- The value of a field of an object (the last one of that name), or `none`. -/
def field? (v : Value) (key : String) : Option Value :=
  match v with
  | .obj fields => (fields.reverse.find? (·.1 == key)).map (·.2)
  | _ => none

/-- Whether an object has a field of that name. -/
def hasField (v : Value) (key : String) : Bool := (v.field? key).isSome

/-- The string inside a string value. -/
def asString? : Value → Option String
  | .str s => some s
  | _ => none

/-- The boolean inside a boolean value. -/
def asBool? : Value → Option Bool
  | .bool b => some b
  | _ => none

/-- The natural number inside an unsigned integer value. -/
def asNat? : Value → Option Nat
  | .num (.natural n) => some n
  | _ => none

/-- The integer inside an integer value of either kind. -/
def asInt? : Value → Option Int
  | .num (.natural n) => some n
  | .num (.negative n) => some (-(n : Int))
  | _ => none

/-- The items of an array. -/
def asArray? : Value → Option (List Value)
  | .arr xs => some xs
  | _ => none

/-- The fields of an object. -/
def asObject? : Value → Option (List (String × Value))
  | .obj fs => some fs
  | _ => none

/-- Whether the value is `null`. -/
def isNull : Value → Bool
  | .null => true
  | _ => false

/-- Insert a field into fields sorted by key; a field of the same name is replaced. -/
def insertSorted (key : String) (v : Value) : List (String × Value) → List (String × Value)
  | [] => [(key, v)]
  | (k, w) :: rest =>
    if key == k then (key, v) :: rest
    else if key < k then (key, v) :: (k, w) :: rest
    else (k, w) :: insertSorted key v rest

/-- Fields in key order, the last of equal keys kept: the shape of a map read from text. -/
def sortFields (fields : List (String × Value)) : List (String × Value) :=
  fields.foldl (fun acc (k, v) => insertSorted k v acc) []

mutual
/-- Every object, at every depth, with its fields in key order. -/
def sorted : Value → Value
  | .arr items => .arr (sortedList items)
  | .obj fields => .obj (sortFields (sortedFields fields))
  | v => v

/-- `sorted` on each item. -/
def sortedList : List Value → List Value
  | [] => []
  | v :: rest => sorted v :: sortedList rest

/-- `sorted` on each field's value. -/
def sortedFields : List (String × Value) → List (String × Value)
  | [] => []
  | (k, v) :: rest => (k, sorted v) :: sortedFields rest
end

end Value

end HostAgent.Json
