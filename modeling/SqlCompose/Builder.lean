import SqlCompose.Pagination
import SqlCompose.Statement.Clause

/-!
# Building statements

A statement is built step by step. A step whose input is at fault leaves the clauses as they were,
and the first fault is kept: it is the outcome of the whole.
-/

namespace SqlCompose

/-- Input of a step: JSON to be read, or the data itself. -/
inductive Input (α : Type) where
  | json (value : Json)
  | data (value : α)
  deriving Repr

/-- The data of an input. -/
def Input.read {α : Type} (ofJson : Json → Except BuildError α) : Input α → Except BuildError α
  | json j => ofJson j
  | data a => .ok a

/-- A step in building a statement. -/
inductive Step where
  /-- Adds keys to those that are selected or returned. -/
  | select (keys : Keys)
  /-- Sorts by keys instead of those before. -/
  | sorted (keys : Keys)
  /-- Counts a key, or all rows for `*`. -/
  | count (key : String)
  /-- Takes the first row. -/
  | first
  /-- Takes the value of a key in the first row. -/
  | firstValue (key : String)
  | groupBy (key : String)
  | update (values : Input (List Assignment))
  | insert (values : Input (List Assignment))
  | delete
  | onConflict (keys : Keys) (action : Input ConflictAction)
  | filter (conditions : Input (List Condition))
  | join (joins : Input (List Join))
  | offsetBy (n : Nat)
  | limitTo (n : Nat)
  | paginated (page : Pagination)
  deriving Repr

/-- A statement that is being built. -/
structure Builder where
  config : Config
  statement : Statement
  /-- The first fault. -/
  fault : Option BuildError := none
  deriving Repr

namespace Builder

/-- A select of all rows of a table. -/
def ofTable (config : Config) (table : String) : Builder := { config, statement := { table } }

/-- Changes the statement. -/
def modify (b : Builder) (f : Statement → Statement) : Builder :=
  { b with statement := f b.statement }

/-- Changes the statement by a result, or keeps the fault if it is the first. -/
def attempt {α : Type} (b : Builder) (result : Except BuildError α)
    (f : α → Statement → Statement) : Builder :=
  match result with
  | .ok a => b.modify (f a)
  | .error e => { b with fault := b.fault.or (some e) }

/-- The key that counts `key`, or all rows for `*`. -/
def countKey (naming : Naming) (table key : String) : String :=
  if key = "*" then ":count(*) AS count"
  else ":count(" ++ naming.bareName table ++ "." ++ naming.bareName key ++ ") AS count"

/-- Assignments that are not empty. -/
def nonEmpty (as : List Assignment) : Except BuildError (List Assignment) :=
  if as.isEmpty then .error .missingAssignments else .ok as

/-- A conflict, which needs a target to update. -/
def conflictOf (keys : List String) : ConflictAction → Except BuildError Conflict
  | .keep => .ok ⟨keys, .keep⟩
  | .update as => if keys.isEmpty then .error .missingConflictTarget else .ok ⟨keys, .update as⟩

/-- The conflict of a step behind a command. -/
def readConflict (command : Command) (keys : Keys) (action : Input ConflictAction) :
    Except BuildError Conflict :=
  if !command.isInsert then .error .conflictWithoutInsert
  else (action.read ConflictAction.ofJson).bind (conflictOf keys.toList)

/-- The builder after a step. -/
def apply (b : Builder) : Step → Builder
  | .select keys => b.modify fun s => { s with keys := s.keys ++ keys.toList }
  | .sorted keys => b.modify fun s => { s with sorting := keys.toList }
  | .count key => b.modify fun s =>
      { s with
        keys := [countKey b.config.naming s.table key]
        limit := some 1
        first := some (.value "count") }
  | .first => b.modify fun s => { s with limit := some 1, first := some .row }
  | .firstValue key => b.modify fun s =>
      { s with keys := s.keys ++ [key], limit := some 1, first := some (.value key) }
  | .groupBy key => b.modify fun s => { s with groupBy := some key }
  | .update values =>
      (b.attempt ((values.read Assignment.listOfJson).bind nonEmpty) fun as s =>
        { s with command := .update as }).modify fun s => { s with first := some .row }
  | .insert values =>
      (b.attempt (values.read Assignment.listOfJson) fun as s =>
        { s with command := .insert as }).modify fun s => { s with first := some .row }
  | .delete => b.modify fun s => { s with command := .delete }
  | .onConflict keys action =>
      b.attempt (readConflict b.statement.command keys action) fun c s =>
        { s with conflict := some c }
  | .filter conditions =>
      b.attempt (conditions.read Condition.listOfJson) fun cs s =>
        { s with conditions := s.conditions ++ cs }
  | .join joins =>
      b.attempt (joins.read Join.listOfJson) fun js s => { s with joins := s.joins ++ js }
  | .offsetBy n => b.modify fun s => { s with offset := n }
  | .limitTo n => b.modify fun s => { s with limit := some n }
  | .paginated page => b.modify fun s =>
      { s with offset := page.offset, limit := page.limit, paginated := true }

/-- The builder after steps taken in order. -/
def applyAll (b : Builder) (steps : List Step) : Builder := steps.foldl apply b

/-- Text and parameters of the statement, unless a step was at fault. -/
def build (b : Builder) : Except BuildError Query :=
  match b.fault with
  | some e => .error e
  | none => b.statement.compile b.config

end Builder

end SqlCompose
