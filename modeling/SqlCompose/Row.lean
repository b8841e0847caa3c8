import SqlCompose.Entries
import SqlCompose.Json.Basic
import SqlCompose.Naming.Path

/-!
# Rows

A row has values under distinct column names, in order.
-/

namespace SqlCompose

/-- A row of a result. -/
structure Row where
  entries : List (String × Json)
  distinct : (Entries.keys entries).Nodup
  deriving Repr

namespace Row

/-- The row without columns. -/
def empty : Row := ⟨[], List.nodup_nil⟩

/-- The row with a column set. A column that is there keeps its place. -/
def set (r : Row) (column : String) (value : Json) : Row :=
  ⟨Entries.set column value r.entries, Entries.nodup_keys_set r.distinct column value⟩

/-- The row of columns set one after the other. -/
def ofList (entries : List (String × Json)) : Row :=
  entries.foldl (fun r e => r.set e.1 e.2) empty

/-- The value of a column. -/
def get? (r : Row) (column : String) : Option Json := Entries.find? column r.entries

/-- Is there such a column? -/
def contains (r : Row) (column : String) : Bool := (r.get? column).isSome

/-- The row without a column. -/
def erase (r : Row) (column : String) : Row :=
  ⟨Entries.erase column r.entries, Entries.nodup_keys_erase r.distinct column⟩

/-- The value of the only column. -/
def only? (r : Row) : Option Json :=
  match r.entries with
  | [(_, value)] => some value
  | _ => none

/-- The row as a JSON object. -/
def toJson (r : Row) : Json := .object r.entries

/-- The row under the names of the caller. Of columns that get the same name, the first gives the
place and the last the value. -/
def forCaller (naming : Naming) (r : Row) : Row :=
  ofList (r.entries.map fun e => (naming.callerName e.1, e.2))

/-- The first of the names that the row has. -/
def findName? (r : Row) (names : List String) : Option String := names.find? r.contains

end Row

/-- The names under which a column may arrive: as written, in the convention of the database, and
in that of the caller. -/
def Naming.arrivals (naming : Naming) (column : String) : List String :=
  let stored := naming.bareName column
  [column, stored, naming.callerName stored]

end SqlCompose
