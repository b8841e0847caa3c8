import SqlCompose.Error
import SqlCompose.Text.Mark
import SqlCompose.Value.Basic

/-!
# Assignments

Columns with what is put into them by an insert or an update, and what an insert does on conflict.
-/

namespace SqlCompose

/-- The right side of an assignment. -/
inductive Assigned where
  | null
  /-- SQL as it is. -/
  | raw (sql : String)
  /-- A bound value. -/
  | bind (value : Value)
  deriving Repr

/-- A column with what is put into it. -/
structure Assignment where
  column : String
  value : Assigned
  deriving Repr

/-- The right side for a value: text that starts with a colon is SQL. -/
def Assigned.ofValue : Value → Assigned
  | .null => .null
  | .text s =>
    match Text.afterMark? ':' s with
    | some sql => .raw sql
    | none => .bind (.text s)
  | v => .bind v

namespace Assignment

/-- A column with a value. -/
def ofValue (column : String) (v : Value) : Assignment := ⟨column, .ofValue v⟩

/-- The assignments of a JSON object, one for each entry. -/
def listOfJson : Json → Except BuildError (List Assignment)
  | .null => .error .missingAssignments
  | .object es => .ok (es.map fun e => ofValue e.1 (.ofJson e.2))
  | j => .error (.invalidAssignments j.kind)

end Assignment

/-- What an insert does with a row that is there already. -/
inductive ConflictAction where
  | keep
  | update (assignments : List Assignment)
  deriving Repr

/-- The columns that conflict and what is done then. -/
structure Conflict where
  keys : List String
  action : ConflictAction
  deriving Repr

/-- The action of a JSON value. Of an object only the first key counts. -/
def ConflictAction.ofJson : Json → Except BuildError ConflictAction
  | .null => .ok .keep
  | .object [] => .ok .keep
  | .object ((key, payload) :: _) =>
    if key = "nothing" then .ok .keep
    else if key = "update" then do
      let assignments ← Assignment.listOfJson payload
      if assignments.isEmpty then .error .missingAssignments
      else .ok (.update assignments)
    else .error (.unsupportedConflict key)
  | j => .error (.unsupportedConflict j.kind)

end SqlCompose
