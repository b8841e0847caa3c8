import SqlCompose.Entries
import SqlCompose.Json.Basic
import SqlCompose.Naming.Path

/-!
# Configuration

The conventions of names and the column that joins use by default, with their reading from JSON: an
object with any of the fields, or an array of the fields in order. Missing fields have their
defaults; fields that are unknown are passed over.
-/

namespace SqlCompose

/-- What all statements of a program share. -/
structure Config where
  /-- The conventions of names. -/
  naming : Naming := ⟨.snake, .camel⟩
  /-- The column of a join that names none. -/
  primaryKey : String := "id"
  deriving DecidableEq, Repr

/-- The convention that JSON names: by a string, or by the only key of an object, with null. -/
def Convention.ofJson? : Json → Option Convention
  | .string s => ofName? s
  | .object [(key, .null)] => ofName? key
  | _ => none

/-- The configuration of JSON fields. -/
def Config.ofFields? (database caller primaryKey : Option Json) : Option Config := do
  return {
    naming := {
      database := ← Json.field? Convention.ofJson? .snake database
      caller := ← Json.field? Convention.ofJson? .camel caller }
    primaryKey := ← Json.field? Json.string? "id" primaryKey }

/-- The configuration of a JSON value. -/
def Config.ofJson? : Json → Option Config
  | .object es =>
    ofFields? (Entries.find? "db_case" es) (Entries.find? "external_case" es)
      (Entries.find? "default_primary_key" es)
  | .array items =>
    if items.length ≤ 3 then ofFields? items[0]? items[1]? items[2]? else none
  | _ => none

end SqlCompose
