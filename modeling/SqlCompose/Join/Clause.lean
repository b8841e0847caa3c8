import SqlCompose.Condition.Clause
import SqlCompose.Config
import SqlCompose.Join.Basic

/-!
# Joins as SQL

The JOIN clauses of a statement. A join on conditions without any comparison is on `TRUE`.
-/

namespace SqlCompose.Join

/-- A column of a join with its table. Behind a colon it is SQL. -/
def column (naming : Naming) (table key : String) : String :=
  match Text.afterMark? ':' key with
  | some sql => sql
  | none => table ++ "." ++ naming.bareName key

/-- The expression of a join on conditions. -/
def conditionsSql (naming : Naming) (cs : List Condition) : Except BuildError Sql :=
  match Condition.rootSql naming cs with
  | .error u => .error u.cause
  | .ok sql => .ok (if sql.isBlank then Sql.text "TRUE" else sql)

/-- The expression of a join on columns. -/
def keysText (config : Config) (ownTable table : String) (own joined : Option String) : String :=
  column config.naming ownTable (own.getD config.primaryKey) ++ " = " ++
    column config.naming table (joined.getD config.primaryKey)

/-- The clause of a join with the table `ownTable` of the statement. -/
def sql (config : Config) (ownTable : String) (j : Join) : Except BuildError Sql :=
  if j.table.isEmpty then .error .missingJoinTable
  else
    let table := config.naming.bareName j.table
    let head := Sql.text (j.required.keyword ++ " " ++ table ++ " ON ")
    match j.on with
    | .cross => .ok (Sql.text ("CROSS JOIN " ++ table))
    | .conditions cs => (conditionsSql config.naming cs).map (head ++ ·)
    | .keys own joined => .ok (head ++ Sql.text (keysText config ownTable table own joined))

/-- The clauses of joins, in order. -/
def listSql (config : Config) (ownTable : String) (joins : List Join) : Except BuildError Sql :=
  (joins.mapM (sql config ownTable)).map (Sql.joined " ")

end SqlCompose.Join
