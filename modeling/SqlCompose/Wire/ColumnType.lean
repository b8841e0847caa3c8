/-!
# Column types

The types of columns and parameters that have an encoding of their own, and all others by name.
-/

namespace SqlCompose.Wire

/-- The type of a column or a parameter. -/
inductive ColumnType where
  | bool
  | int2
  | int4
  | int8
  | oid
  | float4
  | float8
  | numeric
  | text
  | varchar
  | bpchar
  | name
  | unknown
  | bytea
  | json
  | jsonb
  | uuid
  | timestamptz
  | timestamp
  | date
  | time
  | other (typeName : String)
  deriving DecidableEq, Repr

namespace ColumnType

/-- The name of the type. -/
def typeName : ColumnType → String
  | bool => "bool"
  | int2 => "int2"
  | int4 => "int4"
  | int8 => "int8"
  | oid => "oid"
  | float4 => "float4"
  | float8 => "float8"
  | numeric => "numeric"
  | text => "text"
  | varchar => "varchar"
  | bpchar => "bpchar"
  | name => "name"
  | unknown => "unknown"
  | bytea => "bytea"
  | json => "json"
  | jsonb => "jsonb"
  | uuid => "uuid"
  | timestamptz => "timestamptz"
  | timestamp => "timestamp"
  | date => "date"
  | time => "time"
  | other typeName => typeName

/-- The types that have an encoding of their own. -/
def known : List ColumnType :=
  [bool, int2, int4, int8, oid, float4, float8, numeric, text, varchar, bpchar, name, unknown,
    bytea, json, jsonb, uuid, timestamptz, timestamp, date, time]

/-- The type of a name. -/
def ofTypeName (s : String) : ColumnType :=
  (known.find? fun t => t.typeName == s).getD (other s)

/-- Do values of the type travel as their text? -/
def isText : ColumnType → Bool
  | text | varchar | bpchar | name | unknown => true
  | _ => false

/-- Do texts of the type start with their version? Label trees and their queries do. -/
def isVersioned : ColumnType → Bool
  | other typeName => ["ltree", "lquery", "ltxtquery"].contains typeName
  | _ => false

theorem typeName_ofTypeName (s : String) : (ofTypeName s).typeName = s := by
  simp only [ofTypeName]
  cases h : known.find? fun t => t.typeName == s with
  | none => rfl
  | some t => simpa using List.find?_some h

end ColumnType

end SqlCompose.Wire
