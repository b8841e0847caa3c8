import SqlCompose.Condition.OfJson
import SqlCompose.Entries
import SqlCompose.Json.Printer

/-!
# Joins

A join names a table, the rows that belong together, and the sides that need a row.
-/

namespace SqlCompose

/-- The sides of a join that need a row. -/
inductive Required where
  | neither
  /-- The side of the statement. -/
  | own
  /-- The side of the joined table. -/
  | joined
  | both
  deriving DecidableEq, Repr

namespace Required

/-- The SQL of the join. -/
def keyword : Required → String
  | neither => "FULL OUTER JOIN"
  | own => "LEFT JOIN"
  | joined => "RIGHT JOIN"
  | both => "INNER JOIN"

/-- The required sides of that name. -/
def ofName (name : String) : Except BuildError Required :=
  if name = "none" then .ok neither
  else if name = "local" then .ok own
  else if name = "foreign" then .ok joined
  else if name = "both" then .ok both
  else .error (.invalidRequired name)

end Required

/-- Which rows of a join belong together. -/
inductive JoinOn where
  /-- Those for which all conditions hold. -/
  | conditions (cs : List Condition)
  /-- Those with equal columns. A column that is missing is the configured one. -/
  | keys (own joined : Option String)
  /-- All. -/
  | cross
  deriving Repr

/-- A join with a table. -/
structure Join where
  table : String
  on : JoinOn
  required : Required
  deriving Repr

namespace Join

/-- An inner join on the configured columns. -/
def inner (table : String) : Join := ⟨table, .keys none none, .both⟩

/-- A join of all rows. -/
def cross (table : String) : Join := ⟨table, .cross, .both⟩

/-- The join on conditions. -/
def withConditions (j : Join) (cs : List Condition) : Join := { j with on := .conditions cs }

/-- The join on a column of the statement's table. -/
def withOwn (j : Join) (key : String) : Join :=
  match j.on with
  | .keys _ other => { j with on := .keys (some key) other }
  | _ => { j with on := .keys (some key) none }

/-- The join on a column of the joined table. -/
def withJoined (j : Join) (key : String) : Join :=
  match j.on with
  | .keys other _ => { j with on := .keys other (some key) }
  | _ => { j with on := .keys none (some key) }

/-- The join with required sides. -/
def withRequired (j : Join) (r : Required) : Join := { j with required := r }

/-- The text of a field, if there is one and it is not empty. -/
def textField? (key : String) (es : List (String × Json)) : Option String :=
  match Entries.find? key es with
  | some (.string s) => if s.isEmpty then none else some s
  | _ => none

/-- The required sides of a field. -/
def requiredOfJson : Option Json → Except BuildError Required
  | none => .ok .both
  | some .null => .ok .both
  | some (.string mode) => Required.ofName mode
  | some j => .error (.invalidRequired j.text)

/-- The rows that belong together by the fields of a join. Crossing wins over conditions, and
conditions win over columns. -/
def onOfJson (es : List (String × Json)) : Except BuildError JoinOn :=
  match Entries.find? "cross" es, Entries.find? "conditions" es with
  | some (.bool true), _ => .ok .cross
  | _, none => .ok (.keys (textField? "local" es) (textField? "foreign" es))
  | _, some .null => .ok (.keys (textField? "local" es) (textField? "foreign" es))
  | _, some j => (Condition.listOfJson j).map .conditions

/-- The join of a JSON object. -/
def ofJson : Json → Except BuildError Join
  | .object es => do
    let table ← match textField? "table" es with
      | some table => .ok table
      | none => .error .missingJoinTable
    let required ← requiredOfJson (Entries.find? "required" es)
    let on ← onOfJson es
    return { table, on, required }
  | j => .error (.invalidJoin j.kind)

/-- The joins of a JSON value: one object or several, of which those that are null are left out. -/
def listOfJson : Json → Except BuildError (List Join)
  | .null => .ok []
  | .array items => (items.filter fun j => !j.isNull).mapM ofJson
  | j => (ofJson j).map fun join => [join]

end Join

end SqlCompose
