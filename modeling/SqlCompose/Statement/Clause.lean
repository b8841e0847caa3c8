import SqlCompose.Join.Clause
import SqlCompose.Statement.Basic

/-!
# Statements as SQL

The clauses of a statement, in the order in which SQL wants them and with single spaces between
those that are not empty. The companion of a select counts its rows: it has the same table, joins,
conditions and grouping.
-/

namespace SqlCompose.Statement

/-- The column that carries the number of all rows. -/
def windowTotal : String := "COUNT(*) OVER() AS total"

/-- A column and the type behind a double colon that it is cast to. -/
def castText (naming : Naming) (expression : List Char) : String :=
  match Text.splitAtDouble ':' expression with
  | some (column, type) => naming.quotedName (String.ofList column) ++ "::" ++ String.ofList type
  | none => naming.quotedName (String.ofList expression)

/-- A key of a select. Behind a colon it is SQL; otherwise it may have a cast and an alias. -/
def keyText (naming : Naming) (key : String) : String :=
  match Text.afterMark? ':' key with
  | some sql => sql
  | none =>
    match Text.splitAlias? key.toList with
    | some (expression, name) =>
      castText naming expression ++ " AS " ++ naming.bareName (String.ofList name)
    | none => castText naming key.toList

/-- The keys of a statement, and the number of all rows if `total`. -/
def keysText (naming : Naming) (keys : List String) (total : Bool) : String :=
  let columns := if keys.isEmpty then ["*"] else keys.map (keyText naming)
  ", ".intercalate (columns ++ if total then [windowTotal] else [])

/-- A key to sort or to group by. Behind a colon it is SQL. -/
def sortKey (naming : Naming) (key : String) : String :=
  match Text.afterMark? ':' key with
  | some sql => sql
  | none => naming.quotedName key

/-- A key to sort by, behind a hyphen from the greatest down. -/
def sortText (naming : Naming) (key : String) : String :=
  match Text.afterMark? '-' key with
  | some descending => sortKey naming descending ++ " DESC"
  | none => sortKey naming key

/-- The ORDER BY clause. -/
def sortingText (naming : Naming) (sorting : List String) : String :=
  if sorting.isEmpty then ""
  else "ORDER BY " ++ ", ".intercalate (sorting.map (sortText naming))

/-- The GROUP BY clause. -/
def groupText (naming : Naming) (key : String) : String := "GROUP BY " ++ sortKey naming key

/-- The OFFSET clause. -/
def offsetText (offset : Nat) : String :=
  if offset = 0 then "" else "OFFSET " ++ decimalText offset

/-- The LIMIT clause. -/
def limitText : Option Nat → String
  | none => ""
  | some n => if n = 0 then "" else "LIMIT " ++ decimalText n

/-- The WHERE clause. -/
def whereSql (naming : Naming) (cs : List Condition) : Except BuildError Sql :=
  match Condition.rootSql naming cs with
  | .error u => .error u.cause
  | .ok sql => .ok (if sql.isBlank then [] else Sql.text "WHERE " ++ sql)

/-- The right side of an assignment. -/
def assignedSql : Assigned → Sql
  | .null => Sql.text "NULL"
  | .raw sql => Sql.text sql
  | .bind v => Sql.bind v

/-- Assignments behind SET. -/
def setSql (naming : Naming) (as : List Assignment) : Sql :=
  Sql.text "SET " ++ Sql.joined ", " (as.map fun a =>
    Sql.text (naming.quotedName a.column ++ " = ") ++ assignedSql a.value)

/-- The columns and values of an insert. -/
def valuesSql (naming : Naming) (as : List Assignment) : Sql :=
  if as.isEmpty then Sql.text "DEFAULT VALUES"
  else
    Sql.text ("(" ++ ", ".intercalate (as.map fun a => naming.quotedName a.column) ++ ") VALUES (")
      ++ Sql.joined ", " (as.map fun a => assignedSql a.value) ++ Sql.text ")"

/-- The columns of a conflict. -/
def targetText (naming : Naming) (keys : List String) : String :=
  if keys.isEmpty then ""
  else " (" ++ ", ".intercalate (keys.map naming.quotedName) ++ ")"

/-- The ON CONFLICT clause. -/
def conflictSql (naming : Naming) : Option Conflict → Except BuildError Sql
  | none => .ok []
  | some ⟨keys, .keep⟩ => .ok (Sql.text ("ON CONFLICT" ++ targetText naming keys ++ " DO NOTHING"))
  | some ⟨keys, .update as⟩ =>
    if keys.isEmpty then .error .missingConflictTarget
    else .ok (Sql.text ("ON CONFLICT" ++ targetText naming keys ++ " DO UPDATE ") ++
      setSql naming as)

/-- The parts of a statement's SQL, some of them empty. -/
def parts (config : Config) (s : Statement) : Except BuildError (List Sql) :=
  let naming := config.naming
  let table := naming.bareName s.table
  match s.command with
  | .select => do
    let joins ← Join.listSql config table s.joins
    let filter ← whereSql naming s.conditions
    return [Sql.text "SELECT", Sql.text (keysText naming s.keys s.hasWindowTotal),
      Sql.text "FROM", Sql.text table, joins, filter,
      (s.groupBy.map fun key => Sql.text (groupText naming key)).getD [],
      Sql.text (sortingText naming s.sorting), Sql.text (offsetText s.offset),
      Sql.text (limitText s.limit)]
  | .update as =>
    if as.isEmpty then .error .missingAssignments
    else do
      let filter ← whereSql naming s.conditions
      return [Sql.text "UPDATE", Sql.text table, setSql naming as, filter, Sql.text "RETURNING",
        Sql.text (keysText naming s.keys false)]
  | .insert as => do
    let conflict ← conflictSql naming s.conflict
    return [Sql.text "INSERT INTO", Sql.text table, valuesSql naming as, conflict,
      Sql.text "RETURNING", Sql.text (keysText naming s.keys false)]
  | .delete => do
    let filter ← whereSql naming s.conditions
    return [Sql.text "DELETE FROM", Sql.text table, filter]

/-- The SQL of a statement. Only an insert may handle conflicts. -/
def sql (config : Config) (s : Statement) : Except BuildError Sql :=
  if s.conflict.isSome && !s.command.isInsert then .error .conflictWithoutInsert
  else (s.parts config).map Sql.spaced

/-- The SQL that counts the rows of a statement. With grouping it counts the groups. -/
def countSql (config : Config) (s : Statement) : Except BuildError Sql := do
  let naming := config.naming
  let table := naming.bareName s.table
  let joins ← Join.listSql config table s.joins
  let filter ← whereSql naming s.conditions
  match s.groupBy with
  | none => return Sql.spaced [Sql.text "SELECT count(*) AS count FROM", Sql.text table, joins, filter]
  | some key =>
    let rows := Sql.spaced
      [Sql.text "SELECT 1 FROM", Sql.text table, joins, filter, Sql.text (groupText naming key)]
    return Sql.text "SELECT count(*) AS count FROM (" ++ rows ++ Sql.text ") AS t"

/-- Text and parameters of a statement. -/
def compile (config : Config) (s : Statement) : Except BuildError Query :=
  (s.sql config).map Sql.toQuery

/-- Text and parameters of the count of a statement's rows. -/
def compileCount (config : Config) (s : Statement) : Except BuildError Query :=
  (s.countSql config).map Sql.toQuery

end SqlCompose.Statement
