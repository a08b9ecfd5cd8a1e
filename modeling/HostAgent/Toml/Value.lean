import HostAgent.Json.Value

/-!
# `HostAgent.Toml.Value` — TOML values

A TOML value is a string, a 64-bit integer, a binary64 float, a boolean, a date or time (kept as
its text), an array, or a table of keys to values.

`Value.toJson` reads a TOML document as a JSON document, so that one decoder serves settings
from either format: tables become objects, arrays become arrays, and a date or time becomes an
object with the single key `$__toml_private_datetime`, which no setting accepts in place of a
string, a number or a flag.
-/

namespace HostAgent.Toml

open HostAgent.Decimal

/-- A TOML value. -/
inductive Value where
  | str (s : String)
  | int (i : Int)
  | float (x : Binary64)
  | bool (b : Bool)
  /-- A date, a time or both, as written. -/
  | datetime (text : String)
  | array (items : List Value)
  | table (fields : List (String × Value))
  deriving Repr, Inhabited

/-- The key under which a date or time is presented to a decoder. -/
def datetimeKey : String := "$__toml_private_datetime"

mutual
/-- A TOML value as a JSON document. -/
def Value.toJson : Value → Json.Value
  | .str s => .str s
  | .int i => Json.Value.ofInt i
  | .float x => .num (.float x)
  | .bool b => .bool b
  | .datetime t => .obj [(datetimeKey, .str t)]
  | .array items => .arr (Value.toJsonList items)
  | .table fields => .obj (Value.toJsonFields fields)

/-- `toJson` on each item. -/
def Value.toJsonList : List Value → List Json.Value
  | [] => []
  | v :: rest => v.toJson :: Value.toJsonList rest

/-- `toJson` on each field. -/
def Value.toJsonFields : List (String × Value) → List (String × Json.Value)
  | [] => []
  | (k, v) :: rest => (k, v.toJson) :: Value.toJsonFields rest
end

end HostAgent.Toml
