import SqlCompose.Builder
import SqlCompose.Execution.Journal
import SqlCompose.Page

/-!
# Running statements

A built statement is sent to an executor, and the rows that come back are resolved: to all rows, to
the first row, to one value, or to a page. A page without rows does not tell how many rows match,
so these are counted by a second statement.
-/

namespace SqlCompose

/-- The answers of an executor, by the number of calls before. -/
abbrev Executor := Nat → Query → Except RunError (List Row)

/-- The executor that answers under the names of the caller. -/
def Executor.forCaller (naming : Naming) (e : Executor) : Executor := fun n q =>
  (e n q).map fun rows => rows.map (Row.forCaller naming)

/-- The executor that gives answers in order, and then no rows. -/
def Executor.scripted (answers : List (Except RunError (List Row))) : Executor := fun n _ =>
  answers.getD n (.ok [])

/-- A run that keeps a journal. -/
abbrev Run := ExceptT RunError (StateM Journal)

namespace Run

/-- Reports an event. -/
def report (event : Event) : Run Unit :=
  modify fun j => { j with events := j.events ++ [event] }

/-- A result as a run. -/
def lift {α : Type} (r : Except RunError α) : Run α := ExceptT.mk (pure r)

/-- Sends a statement to the executor, and reports it before. -/
def send (e : Executor) (command : String) (q : Query) : Run (List Row) := do
  report (.ofQuery command q)
  let j ← get
  set { j with calls := j.calls ++ [q] }
  lift (e j.calls.length q)

/-- A built statement as a run. -/
def built {α : Type} (r : Except BuildError α) : Run α := lift (r.mapError .build)

end Run

/-- What a run resolves to. -/
inductive Output where
  | rows (rows : List Row)
  | row (row : Option Row)
  | value (value : Option Json)
  | page (page : Page)
  deriving Repr

namespace Output

/-- The output as JSON. -/
def toJson : Output → Json
  | rows rs => .array (rs.map Row.toJson)
  | row r => (r.map Row.toJson).getD .null
  | value v => v.getD .null
  | page p => p.toJson

end Output

namespace Builder

/-- Sends the statement. -/
def sendStatement (b : Builder) (e : Executor) : Run (List Row) := do
  let q ← Run.built b.build
  Run.send e b.statement.command.name q

/-- The page of the rows of a paginated select. -/
def complete (b : Builder) (e : Executor) : List Row → Run Page
  | [] => do
    let q ← Run.built (b.statement.compileCount b.config)
    Run.report (.emptyPage b.statement.offset b.statement.limit)
    let answer ← Run.send e "select" q
    let total ← Run.lift (Page.countedTotal b.config.naming answer)
    Run.report (.counted total)
    return ⟨total, []⟩
  | row :: rows => do
    let page ← Run.lift (Page.ofRows b.config.naming row rows)
    Run.report (.complete page.total page.items.length)
    return page

/-- The name of the column that a key yields: its alias, or the last segment of its path without
cast. -/
def columnName (key : String) : String :=
  let key := (Text.afterMark? ':' key).getD key
  let name := match Text.splitAlias? key.toList with
    | some (_, name) => name
    | none => key.toList
  let name := match Text.splitAtDouble ':' name with
    | some (name, _) => name
    | none => name
  String.ofList ((Text.splitAt '.' name).getLastD [])

/-- The value of a key in a row, under any of the names under which it may arrive. A row of one
column has no other. -/
def lookup (naming : Naming) (r : Row) (key : String) : Option Json :=
  ((r.findName? (naming.arrivals (columnName key))).bind r.get?).or r.only?

/-- Runs the statement and resolves as it was built. -/
def run (b : Builder) (e : Executor) : Run Output := do
  let rows ← b.sendStatement e
  if b.statement.hasWindowTotal then
    return .page (← b.complete e rows)
  else match b.statement.first with
    | none => return .rows rows
    | some .row => return .row rows.head?
    | some (.value key) => return .value (rows.head?.bind fun r => lookup b.config.naming r key)

/-- Runs the statement for all rows. -/
def fetchAll (b : Builder) (e : Executor) : Run (List Row) := do
  let rows ← b.sendStatement e
  if b.statement.hasWindowTotal then
    return (← b.complete e rows).items
  else return rows

/-- Runs the statement for the first row. -/
def fetchFirst (b : Builder) (e : Executor) : Run (Option Row) := do
  return (← b.fetchAll e).head?

/-- Runs the statement for one value of the first row: that of its key, or the only one. -/
def fetchValue (b : Builder) (e : Executor) : Run (Option Json) := do
  let rows ← b.sendStatement e
  if rows.isEmpty then return none
  else
    let rows ←
      if b.statement.hasWindowTotal then (·.items) <$> b.complete e rows else pure rows
    return rows.head?.bind fun r =>
      match b.statement.first with
      | some (.value key) => lookup b.config.naming r key
      | _ => r.only?

/-- Runs the statement for a page. Without pagination it has all rows. -/
def fetchPage (b : Builder) (e : Executor) : Run Page := do
  let rows ← b.sendStatement e
  if b.statement.hasWindowTotal then b.complete e rows
  else return ⟨rows.length, rows⟩

end Builder

end SqlCompose
