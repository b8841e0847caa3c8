import SqlCompose.Error
import SqlCompose.Json.Reader
import SqlCompose.Number.Hex
import SqlCompose.Row
import SqlCompose.Wire.Encode
import SqlCompose.Wire.Numeric

/-!
# Decoding of rows

The JSON value of a cell by the type of its column. Values that JSON does not have go as text:
decimals, bytes, identifiers, dates and times. A cell of the wrong length fails.
-/

namespace SqlCompose.Wire

/-- A column of a result. -/
structure Column where
  name : String
  type : ColumnType
  deriving Repr

/-- The bytes, if there are `count` of them. -/
def exactly? (count : Nat) (bytes : Bytes) : Option Bytes :=
  if bytes.length = count then some bytes else none

/-- An integer of `count` bytes as JSON. -/
def decodeInt? (count : Nat) (bytes : Bytes) : Option Json :=
  (exactly? count bytes).map fun b => .ofInt (toInt b)

/-- The text of bytes in hexadecimal digits. -/
def byteText (bytes : Bytes) : String := String.ofList ('\\' :: 'x' :: hexOfBytes bytes)

/-- The JSON value of JSON text. -/
def decodeJson? (bytes : Bytes) : Option Json := (toText? bytes).bind Json.read?

/-- The date of its days since the start of 2000. -/
def decodeDate? (bytes : Bytes) : Option Date :=
  (exactly? 4 bytes).bind fun b => Date.ofDay? (toInt b + Timestamp.startOf2000 / daySeconds)

/-- The instant of its microseconds since the start of 2000. -/
def decodeTimestamp? (bytes : Bytes) : Option Timestamp :=
  (exactly? 8 bytes).bind fun b => Timestamp.ofMicros? (toInt b)

/-- How the cells of a type are decoded, none if the type is not supported. -/
def decoder? : ColumnType → Option (Bytes → Option Json)
  | .bool => some fun bytes => (exactly? 1 bytes).map fun b => .bool (toNat b != 0)
  | .int2 => some (decodeInt? 2)
  | .int4 => some (decodeInt? 4)
  | .int8 => some (decodeInt? 8)
  | .oid => some fun bytes => (exactly? 4 bytes).map fun b => .ofInt (toNat b)
  | .float4 => some fun bytes => (exactly? 4 bytes).map fun b =>
      .ofFloat (Binary32.mk (UInt32.ofNat (toNat b))).widen
  | .float8 => some fun bytes => (exactly? 8 bytes).map fun b =>
      .ofFloat ⟨UInt64.ofNat (toNat b)⟩
  | .text | .varchar | .bpchar | .name | .unknown => some fun bytes =>
      (toText? bytes).map .string
  | .numeric => some fun bytes => (decodeNumeric? bytes).map .string
  | .bytea => some fun bytes => some (.string (byteText bytes))
  | .json => some decodeJson?
  | .jsonb => some fun bytes => match bytes with
      | b :: bytes => if b = 1 then decodeJson? bytes else none
      | [] => none
  | .uuid => some fun bytes => (exactly? 16 bytes).map fun b =>
      .string (Uuid.mk (BitVec.ofNat 128 (toNat b))).text
  | .timestamptz => some fun bytes => (decodeTimestamp? bytes).map fun t => .string t.text
  | .timestamp => some fun bytes => (decodeTimestamp? bytes).map fun t => .string t.localText
  | .date => some fun bytes => (decodeDate? bytes).map fun d => .string d.text
  | .time => some fun bytes => (exactly? 8 bytes).map fun b =>
      .string (TimeOfDay.ofMicros (toInt b)).text
  | .other _ => none

/-- The value of the cell at a place of a row. -/
def decodeCell (place : Nat) (column : Column) (cell : Option Bytes) : Except RunError Json :=
  match decoder? column.type with
  | none => .error (.decode column.name ("unsupported column type " ++ column.type.typeName ++
      "; cast it to text in the projection"))
  | some decode => match cell with
    | none => .ok .null
    | some bytes => match decode bytes with
      | some j => .ok j
      | none => .error (.decode column.name
          ("error deserializing column " ++ decimalText place))

/-- The cells of a row from a place on, decoded in order and set in `row`. -/
def decodeCells (place : Nat) (row : Row) : List (Column × Option Bytes) → Except RunError Row
  | [] => .ok row
  | (column, cell) :: rest => do
    let value ← decodeCell place column cell
    decodeCells (place + 1) (row.set column.name value) rest

/-- The row of cells. -/
def decodeRow (columns : List Column) (cells : List (Option Bytes)) : Except RunError Row :=
  decodeCells 0 .empty (columns.zip cells)

end SqlCompose.Wire
