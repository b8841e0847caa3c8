import SqlCompose.Number.Binary

/-!
# JSON values

JSON with ordered objects. A number is an integer of 64 bits, with or without sign, or a finite
binary number.
-/

namespace SqlCompose

/-- A JSON number. -/
inductive JsonNumber where
  | integer (value : Int) (bounds : -0x8000000000000000 ≤ value ∧ value < 0x10000000000000000)
  | float (value : Binary64) (finite : value.isFinite = true)
  deriving DecidableEq, Repr

/-- A JSON value. -/
inductive Json where
  | null
  | bool (value : Bool)
  | number (value : JsonNumber)
  | string (value : String)
  | array (items : List Json)
  | object (entries : List (String × Json))
  deriving Repr

instance : Inhabited Json := ⟨.null⟩

namespace JsonNumber

/-- The number of an integer, if it has one. -/
def ofInt? (n : Int) : Option JsonNumber :=
  if h : -0x8000000000000000 ≤ n ∧ n < 0x10000000000000000 then some (.integer n h) else none

/-- The number of a binary number, if that is finite. -/
def ofFloat? (x : Binary64) : Option JsonNumber :=
  if h : x.isFinite = true then some (.float x h) else none

/-- The integer of 64 bits with sign that the number holds. -/
def toInt64? : JsonNumber → Option Int64
  | .integer n h =>
    if hn : n < 0x8000000000000000 then some (.ofIntLE n h.1 (Int.le_sub_one_of_lt hn)) else none
  | .float .. => none

end JsonNumber

namespace Json

/-- The number of an integer, null if it has none. -/
def ofInt (n : Int) : Json :=
  match JsonNumber.ofInt? n with
  | some x => .number x
  | none => .null

/-- The number of an integer with sign. -/
def ofInt64 (n : Int64) : Json :=
  .number (.integer n.toInt (by have := n.toInt_lt; have := n.le_toInt; omega))

/-- The number of a binary number, null if that is not finite. -/
def ofFloat (x : Binary64) : Json :=
  match JsonNumber.ofFloat? x with
  | some n => .number n
  | none => .null

/-- The name of the kind of value. -/
def kind : Json → String
  | null => "null"
  | bool _ => "boolean"
  | number _ => "number"
  | string _ => "string"
  | array _ => "array"
  | object _ => "object"

/-- Is the value null? -/
def isNull : Json → Bool
  | null => true
  | _ => false

/-- The text, if the value is one. -/
def string? : Json → Option String
  | string s => some s
  | _ => none

/-- A field read from JSON, or its default if it is missing. -/
def field? {α : Type} (read : Json → Option α) (default : α) : Option Json → Option α
  | none => some default
  | some j => read j

/-- The natural number, if the value is one. -/
def natural? : Json → Option Nat
  | number (.integer n _) => if 0 ≤ n then some n.toNat else none
  | _ => none

end Json

end SqlCompose
