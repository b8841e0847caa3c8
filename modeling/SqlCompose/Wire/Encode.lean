import SqlCompose.Calendar.Reader
import SqlCompose.Value.Literal
import SqlCompose.Wire.Bytes
import SqlCompose.Wire.ColumnType

/-!
# Encoding of parameters

The bytes of a value for a parameter of a type. Text is read as a value of the type where that has
a form of its own, and goes as it is otherwise.
-/

namespace SqlCompose.Wire

/-- Why a value cannot be encoded. -/
inductive EncodeError where
  /-- An integer is out of the range of the type. -/
  | outOfRange (fault : IntegerFault)
  /-- A text spells no integer of the type. -/
  | integer (fault : IntegerFault)
  /-- A text spells no truth value. -/
  | boolean
  /-- A text spells no identifier. -/
  | uuid
  /-- A text spells no date or instant. -/
  | calendar
  /-- The type has no values of this kind. -/
  | unsupported (kind : String) (type : ColumnType)
  deriving DecidableEq, Repr

/-- The wording of the failure. -/
def EncodeError.message : EncodeError → String
  | outOfRange fault => fault.message
  | integer fault => fault.message
  | boolean => "provided string was not `true` or `false`"
  | uuid => "invalid identifier"
  | calendar => "invalid date or time"
  | unsupported kind type => "cannot encode " ++ kind ++ " as " ++ type.typeName

/-- The bytes of an integer in the range of the type. -/
def encodeInRange (range : IntegerRange) (count : Nat) (n : Int) : Except EncodeError Bytes :=
  if n < range.least then .error (.outOfRange .tooSmall)
  else if range.greatest < n then .error (.outOfRange .tooLarge)
  else .ok (ofInt count n)

/-- The bytes of an integer of `count` bytes that a text spells. -/
def encodeSpelled (count : Nat) (s : String) : Except EncodeError Bytes :=
  ((IntegerRange.signed (8 * count)).read s.toList).mapError .integer |>.map (ofInt count)

/-- The bytes of a date: the days since the start of 2000. -/
def encodeDate (d : Date) : Bytes := ofInt 4 (d.day - Timestamp.startOf2000 / daySeconds)

/-- The bytes of an instant: the microseconds since the start of 2000. -/
def encodeTimestamp (t : Timestamp) : Bytes := ofInt 8 t.micros

/-- The bytes of JSON text. The binary form starts with its version. -/
def encodeJson (binary : Bool) (j : Json) : Bytes :=
  (if binary then [1] else []) ++ ofText j.text

/-- The bytes of an identifier. -/
def encodeUuid (u : Uuid) : Bytes := ofNat 16 u.bits.toNat

/-- The bytes of a value that is represented by its text, for a type of text. -/
def encodeAsText (kind : String) (text : String) (type : ColumnType) : Except EncodeError Bytes :=
  if type.isText then .ok (ofText text) else .error (.unsupported kind type)

/-- The bytes of an integer. -/
def encodeInt (n : Int) : ColumnType → Except EncodeError Bytes
  | .int2 => encodeInRange (.signed 16) 2 n
  | .int4 => encodeInRange (.signed 32) 4 n
  | .oid => encodeInRange ⟨0, 0xffffffff⟩ 4 n
  | .int8 => .ok (ofInt 8 n)
  | .float4 => .ok (ofNat 4 (Binary32.ofInt n).bits.toNat)
  | .float8 => .ok (ofNat 8 (Binary64.ofInt n).bits.toNat)
  | type => encodeAsText "integer" (decimalText n) type

/-- The bytes of a floating point number. -/
def encodeFloat (x : Binary64) : ColumnType → Except EncodeError Bytes
  | .float4 => .ok (ofNat 4 x.narrow.bits.toNat)
  | .float8 => .ok (ofNat 8 x.bits.toNat)
  | type => encodeAsText "float" x.positionalText type

/-- The result of reading a text, or the failure if it cannot be read. -/
def spelled {α : Type} (failure : EncodeError) (encode : α → Bytes) :
    Option α → Except EncodeError Bytes
  | some a => .ok (encode a)
  | none => .error failure

/-- The bytes of a text as it is, behind its version if the type has one. -/
def encodeVerbatim (s : String) (type : ColumnType) : Bytes :=
  (if type.isVersioned then [1] else []) ++ ofText s

/-- The bytes of a text. An instant without offset is read in the strict form first. -/
def encodeText (s : String) : ColumnType → Except EncodeError Bytes
  | .uuid => spelled .uuid encodeUuid (Uuid.read? s.toList)
  | .timestamptz => spelled .calendar encodeTimestamp (Calendar.readStrict s.toList)
  | .timestamp => spelled .calendar encodeTimestamp
      ((Calendar.readStrict s.toList).or (Calendar.readLenient s.toList))
  | .date => spelled .calendar encodeDate (Calendar.readDate s.toList)
  | .int2 => encodeSpelled 2 s
  | .int4 => encodeSpelled 4 s
  | .int8 => encodeSpelled 8 s
  | .bool =>
    if s = "true" then .ok [1] else if s = "false" then .ok [0] else .error .boolean
  | .json => .ok (encodeJson false (.string s))
  | .jsonb => .ok (encodeJson true (.string s))
  | type => .ok (encodeVerbatim s type)

/-- The bytes of an instant. -/
def encodeInstant (t : Timestamp) : ColumnType → Except EncodeError Bytes
  | .timestamptz | .timestamp => .ok (encodeTimestamp t)
  | .date => .ok (encodeDate t.date)
  | type => encodeAsText "timestamp" t.text type

/-- The bytes of a date. Its instant is its start. -/
def encodeDay (d : Date) : ColumnType → Except EncodeError Bytes
  | .date => .ok (encodeDate d)
  | .timestamp | .timestamptz => .ok (encodeTimestamp (.ofDate d))
  | type => encodeAsText "date" d.text type

/-- The bytes of a value for a parameter of a type, none for null. -/
def encode (type : ColumnType) : Value → Except EncodeError (Option Bytes)
  | .null => .ok none
  | .bool b => some <$> match type with
    | .bool => .ok [if b then 1 else 0]
    | type => encodeAsText "boolean" (Value.boolText b) type
  | .int n => some <$> encodeInt n.toInt type
  | .float x => some <$> encodeFloat x type
  | .text s => some <$> encodeText s type
  | .timestamp t => some <$> encodeInstant t type
  | .date d => some <$> encodeDay d type
  | .uuid u => some <$> match type with
    | .uuid => .ok (encodeUuid u)
    | type => encodeAsText "uuid" u.text type
  | .json j => some <$> match type with
    | .json => .ok (encodeJson false j)
    | .jsonb => .ok (encodeJson true j)
    | type => encodeAsText "json" j.text type

end SqlCompose.Wire
