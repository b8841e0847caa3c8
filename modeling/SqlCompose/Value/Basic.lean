import SqlCompose.Calendar.Timestamp
import SqlCompose.Json.Basic
import SqlCompose.Uuid

/-!
# Values

The values that statements carry to the database. A JSON scalar becomes the plain value it is;
an integer beyond 64 bits with sign becomes the nearest floating point number.
-/

namespace SqlCompose

/-- A value of a statement. -/
inductive Value where
  | null
  | bool (value : Bool)
  | int (value : Int64)
  | float (value : Binary64)
  | text (value : String)
  | timestamp (value : Timestamp)
  | date (value : Date)
  | uuid (value : Uuid)
  | json (value : Json)
  deriving Repr

namespace Value

/-- The value of JSON data. Arrays and objects stay JSON. -/
def ofJson : Json → Value
  | .null => .null
  | .bool b => .bool b
  | .number n =>
    match n.toInt64?, n with
    | some i, _ => .int i
    | none, .integer m _ => .float (.ofInt m)
    | none, .float x _ => .float x
  | .string s => .text s
  | j => .json j

/-- Is the value null? -/
def isNull : Value → Bool
  | null => true
  | _ => false

/-- The text, if the value is one. -/
def text? : Value → Option String
  | text s => some s
  | _ => none

end Value

end SqlCompose
