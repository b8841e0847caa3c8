import SqlCompose.Proofs.Statement.Inversion

/-!
# Statements without their bound values

Veiling a statement replaces what would be bound: each value of a column that is not null, and each
value of an assignment. So two statements that differ in such values only are the same once they
are veiled. Veiling goes through every clause (`clauses_veiled`, `listSql_veiled`, `parts_veiled`),
and the outline of a query, its text and the number of its parameters, is that of the veiled
statement (`outline_compile_veiled`).
-/

namespace SqlCompose

/-- What stands for a veiled value. -/
def Value.veil : Value := .bool true

theorem Value.isNull_null : Value.null.isNull = true := rfl

theorem Value.isNull_veil : Value.veil.isNull = false := rfl

/-! ## SQL -/

/-- The piece with its value veiled. -/
def Piece.veiled : Piece → Piece
  | .text s => .text s
  | .bound _ => .bound Value.veil

/-- Text and number of parameters. -/
def Query.outline (q : Query) : String × Nat := (q.sql, q.params.length)

namespace Sql

/-- The SQL with its values veiled. -/
def veiled (s : Sql) : Sql := s.map Piece.veiled

@[simp] theorem veiled_nil : veiled [] = [] := rfl

@[simp] theorem veiled_text (s : String) : veiled (text s) = text s := rfl

@[simp] theorem veiled_bind (v : Value) : veiled (bind v) = bind Value.veil := rfl

@[simp] theorem veiled_append (s t : Sql) : veiled (s ++ t) = veiled s ++ veiled t :=
  List.map_append

@[simp] theorem isBlank_veiled (s : Sql) : isBlank (veiled s) = isBlank s := by
  induction s with
  | nil => rfl
  | cons x s ih =>
    cases x with
    | text t =>
      show (t.isEmpty && isBlank (veiled s)) = (t.isEmpty && isBlank s)
      rw [ih]
    | bound v => rfl

theorem values_veiled (s : Sql) : (veiled s).values = s.values.map fun _ => Value.veil := by
  induction s with
  | nil => rfl
  | cons x s ih =>
    cases x with
    | text t => exact ih
    | bound v =>
      show Value.veil :: (veiled s).values = _
      rw [ih]
      rfl

@[simp] theorem veiled_joined (separator : String) (parts : List Sql) :
    veiled (joined separator parts) = joined separator (parts.map veiled) := by
  induction parts with
  | nil => rfl
  | cons s parts ih =>
    cases parts with
    | nil => rfl
    | cons t rest =>
      show veiled (s ++ .text separator :: joined separator (t :: rest)) = _
      rw [veiled_append]
      show veiled s ++ .text separator :: veiled (joined separator (t :: rest)) = _
      rw [ih]
      rfl

@[simp] theorem veiled_spaced (parts : List Sql) :
    veiled (spaced parts) = spaced (parts.map veiled) := by
  unfold spaced
  rw [veiled_joined, List.filter_map]
  congr 3
  funext s
  simp

/-- The text depends on the values bound before by their number alone, and on its own not at all. -/
theorem render_veiled {p q : Params} (h : p.size = q.size) (s : Sql) :
    (render p (veiled s)).1 = (render q s).1 := by
  induction s generalizing p q with
  | nil => rfl
  | cons x s ih =>
    cases x with
    | text t =>
      show t ++ (render p (veiled s)).1 = t ++ (render q s).1
      rw [ih h]
    | bound v =>
      have hs : (p.push Value.veil).2.size = (q.push v).2.size := by
        unfold Params.size at h
        simp [Params.push, Params.size, h]
      show Params.mark (p.size + 1) ++ (render (p.push Value.veil).2 (veiled s)).1 =
        Params.mark (q.size + 1) ++ (render (q.push v).2 s).1
      rw [ih hs, h]

theorem outline_toQuery_veiled (s : Sql) : (toQuery (veiled s)).outline = (toQuery s).outline := by
  unfold Query.outline toQuery
  dsimp only
  rw [render_veiled rfl, render_snd, render_snd, values_veiled]
  simp [Params.append, Params.empty]

end Sql

/-! ## Conditions -/

/-- The token with its values veiled. -/
def ClauseToken.veiled : ClauseToken → ClauseToken
  | .comparison s => .comparison (Sql.veiled s)
  | token => token

namespace ClauseToken

@[simp] theorem sqlOf_veiled (ts : List ClauseToken) :
    sqlOf (ts.map veiled) = Sql.veiled (sqlOf ts) := by
  induction ts with
  | nil => rfl
  | cons t ts ih =>
    unfold sqlOf at ih ⊢
    rw [List.map_cons, List.flatMap_cons, List.flatMap_cons, Sql.veiled_append, ih]
    cases t <;> rfl

theorem connect_veiled (c : Connective) (ts us : List ClauseToken) :
    connect c (ts.map veiled) (us.map veiled) = (connect c ts us).map veiled := by
  cases ts with
  | nil => rfl
  | cons t ts =>
    cases us with
    | nil => rfl
    | cons u us =>
      show (t :: ts).map veiled ++ .connective c :: (u :: us).map veiled =
        ((t :: ts) ++ .connective c :: u :: us).map veiled
      rw [List.map_append]
      rfl

theorem parenthesized_veiled (ts : List ClauseToken) :
    parenthesized (ts.map veiled) = (parenthesized ts).map veiled := by
  cases ts with
  | nil => rfl
  | cons t ts =>
    show ClauseToken.opening :: (t :: ts).map veiled ++ [closing] =
      (opening :: (t :: ts) ++ [closing]).map veiled
    rw [List.map_append]
    rfl

end ClauseToken

namespace Condition

mutual

/-- The condition with its values veiled. What is null stays null. -/
def veiled : Condition → Condition
  | .leaf key value => .leaf key (if value.isNull then .null else Value.veil)
  | .raw expression value => .raw expression value
  | .group modifier children => .group modifier (listVeiled children)

/-- The conditions with their values veiled. -/
def listVeiled : List Condition → List Condition
  | [] => []
  | c :: cs => veiled c :: listVeiled cs

end

/-- The outcome of writing conditions with its values veiled. -/
def veiledOutcome : Except Unwritable (List ClauseToken) → Except Unwritable (List ClauseToken)
  | .ok ts => .ok (ts.map ClauseToken.veiled)
  | .error u => .error ⟨u.cause, u.bound.map fun _ => Value.veil⟩

theorem veiledOutcome_nullTest (comparer : Comparer) (left : String) :
    veiledOutcome (nullTest comparer left) = nullTest comparer left := by
  unfold nullTest
  cases comparer.nullTest? <;> rfl

variable (naming : Naming)

mutual

theorem clause_veiled (op : Connective) (comparer : Comparer) : ∀ c : Condition,
    clause naming op comparer (veiled c) = veiledOutcome (clause naming op comparer c)
  | .leaf key value => by
    cases hv : value.isNull with
    | true =>
      simp only [veiled, clause, hv, if_true, Value.isNull_null]
      exact (veiledOutcome_nullTest comparer _).symm
    | false =>
      simp only [veiled, clause, hv, Bool.false_eq_true, if_false, Value.isNull_veil]
      rfl
  | .raw expression value => by
    simp only [veiled, clause]
    split
    · exact (veiledOutcome_nullTest comparer _).symm
    · rfl
  | .group (.logical c) children => by
    simp only [veiled, clause]
    rw [clauses_veiled c comparer children]
    cases clauses naming c comparer children with
    | error u => rfl
    | ok ts =>
      simp only [veiledOutcome, Except.map]
      split
      · rfl
      · rw [ClauseToken.parenthesized_veiled]
  | .group (.compare c) children => by
    simp only [veiled, clause]
    exact clauses_veiled op c children

/-- Veiled conditions are written as the conditions are, with the values veiled. -/
theorem clauses_veiled (op : Connective) (comparer : Comparer) : ∀ cs : List Condition,
    clauses naming op comparer (listVeiled cs) = veiledOutcome (clauses naming op comparer cs)
  | [] => rfl
  | c :: cs => by
    simp only [listVeiled, clauses]
    rw [clause_veiled op comparer c, clauses_veiled op comparer cs]
    cases clause naming op comparer c with
    | error u => rfl
    | ok left =>
      cases clauses naming op comparer cs with
      | error u =>
        simp only [veiledOutcome]
        rw [ClauseToken.sqlOf_veiled, Sql.values_veiled, List.map_append]
      | ok right =>
        simp only [veiledOutcome]
        rw [ClauseToken.connect_veiled]

end

end Condition

/-! ## Clauses -/

theorem Condition.rootSql_veiled (naming : Naming) (cs : List Condition) :
    (rootSql naming (listVeiled cs)).mapError Unwritable.cause =
      ((rootSql naming cs).mapError Unwritable.cause).map Sql.veiled := by
  unfold rootSql sql
  rw [clauses_veiled]
  cases clauses naming .and .eq cs with
  | error u => rfl
  | ok ts =>
    show Except.ok (ClauseToken.sqlOf (ts.map ClauseToken.veiled)) = _
    rw [ClauseToken.sqlOf_veiled]
    rfl

/-- What is joined on, with its values veiled. -/
def JoinOn.veiled : JoinOn → JoinOn
  | .conditions cs => .conditions (Condition.listVeiled cs)
  | on => on

namespace Join

/-- The join with its values veiled. -/
def veiled (j : Join) : Join := { j with on := j.on.veiled }

theorem conditionsSql_veiled (naming : Naming) (cs : List Condition) :
    conditionsSql naming (Condition.listVeiled cs) = (conditionsSql naming cs).map Sql.veiled := by
  rw [conditionsSql_eq, conditionsSql_eq, Condition.rootSql_veiled]
  cases (Condition.rootSql naming cs).mapError Unwritable.cause with
  | error err => rfl
  | ok x =>
    simp only [Except.map, Sql.isBlank_veiled]
    split <;> rfl

variable (config : Config) (ownTable : String)

theorem sql_veiled (j : Join) :
    sql config ownTable j.veiled = (sql config ownTable j).map Sql.veiled := by
  obtain ⟨table, on, required⟩ := j
  show sql config ownTable ⟨table, on.veiled, required⟩ = _
  unfold sql
  cases on with
  | conditions cs =>
    dsimp only [JoinOn.veiled]
    rw [conditionsSql_veiled]
    by_cases ht : table.isEmpty = true
    · rw [if_pos ht, if_pos ht]
      rfl
    · rw [if_neg ht, if_neg ht]
      cases conditionsSql config.naming cs with
      | error err => rfl
      | ok x => simp only [Except.map, Sql.veiled_append, Sql.veiled_text]
  | keys own joined =>
    dsimp only [JoinOn.veiled]
    split <;> rfl
  | cross =>
    dsimp only [JoinOn.veiled]
    split <;> rfl

theorem listSql_veiled (joins : List Join) :
    listSql config ownTable (joins.map veiled) =
      (listSql config ownTable joins).map Sql.veiled := by
  unfold listSql
  have hm : (joins.map veiled).mapM (sql config ownTable) =
      (joins.mapM (sql config ownTable)).map (List.map Sql.veiled) := by
    induction joins with
    | nil => rfl
    | cons j joins ih =>
      rw [List.map_cons, List.mapM_cons, List.mapM_cons, sql_veiled, ih]
      cases sql config ownTable j with
      | error err => rfl
      | ok x => cases joins.mapM (sql config ownTable) <;> rfl
  rw [hm]
  cases joins.mapM (sql config ownTable) with
  | error err => rfl
  | ok xs =>
    show Except.ok (Sql.joined " " (xs.map Sql.veiled)) = .ok (Sql.veiled (Sql.joined " " xs))
    rw [Sql.veiled_joined]

end Join

/-- The right side with its value veiled. -/
def Assigned.veiled : Assigned → Assigned
  | .bind _ => .bind Value.veil
  | a => a

/-- The assignment with its value veiled. -/
def Assignment.veiled (a : Assignment) : Assignment := ⟨a.column, a.value.veiled⟩

/-- The conflict with its values veiled. -/
def Conflict.veiled : Conflict → Conflict
  | ⟨keys, .keep⟩ => ⟨keys, .keep⟩
  | ⟨keys, .update as⟩ => ⟨keys, .update (as.map Assignment.veiled)⟩

/-- The command with its values veiled. -/
def Command.veiled : Command → Command
  | .insert as => .insert (as.map Assignment.veiled)
  | .update as => .update (as.map Assignment.veiled)
  | c => c

namespace Statement

/-- The statement with its values veiled. -/
def veiled (s : Statement) : Statement :=
  { s with
    command := s.command.veiled
    conditions := Condition.listVeiled s.conditions
    joins := s.joins.map Join.veiled
    conflict := s.conflict.map Conflict.veiled }

variable (naming : Naming)

theorem whereSql_veiled (cs : List Condition) :
    whereSql naming (Condition.listVeiled cs) = (whereSql naming cs).map Sql.veiled := by
  rw [whereSql_eq, whereSql_eq, Condition.rootSql_veiled]
  cases (Condition.rootSql naming cs).mapError Unwritable.cause with
  | error err => rfl
  | ok x =>
    simp only [Except.map, Sql.isBlank_veiled]
    split
    · rfl
    · rw [Sql.veiled_append, Sql.veiled_text]

theorem assignedSql_veiled (a : Assigned) : assignedSql a.veiled = Sql.veiled (assignedSql a) := by
  cases a <;> rfl

theorem setSql_veiled (as : List Assignment) :
    setSql naming (as.map Assignment.veiled) = Sql.veiled (setSql naming as) := by
  unfold setSql
  rw [Sql.veiled_append, Sql.veiled_text, Sql.veiled_joined, List.map_map, List.map_map]
  congr 3
  funext a
  show Sql.text (naming.quotedName a.column ++ " = ") ++ assignedSql a.value.veiled = _
  rw [assignedSql_veiled]
  rfl

theorem valuesSql_veiled (as : List Assignment) :
    valuesSql naming (as.map Assignment.veiled) = Sql.veiled (valuesSql naming as) := by
  unfold valuesSql
  rw [List.isEmpty_map]
  split
  · rfl
  · rw [Sql.veiled_append, Sql.veiled_append, Sql.veiled_text, Sql.veiled_text, Sql.veiled_joined,
      List.map_map, List.map_map, List.map_map]
    congr 4
    funext a
    exact assignedSql_veiled a.value

theorem conflictSql_veiled (c : Option Conflict) :
    conflictSql naming (c.map Conflict.veiled) = (conflictSql naming c).map Sql.veiled := by
  rcases c with _ | ⟨keys, _ | as⟩
  · rfl
  · rfl
  · simp only [Option.map, Conflict.veiled, conflictSql]
    split
    · rfl
    · rw [setSql_veiled]
      simp only [Except.map, Sql.veiled_append, Sql.veiled_text]

variable (config : Config) (s : Statement)

theorem hasWindowTotal_veiled : s.veiled.hasWindowTotal = s.hasWindowTotal := by
  unfold hasWindowTotal veiled
  cases s.command <;> rfl

theorem isInsert_veiled (c : Command) : c.veiled.isInsert = c.isInsert := by
  cases c <;> rfl

theorem parts_veiled : s.veiled.parts config = (s.parts config).map (List.map Sql.veiled) := by
  unfold parts
  rw [hasWindowTotal_veiled]
  unfold veiled
  cases s.command with
  | select =>
    dsimp only [Command.veiled]
    rw [Join.listSql_veiled, whereSql_veiled]
    cases Join.listSql config (config.naming.bareName s.table) s.joins with
    | error err => rfl
    | ok joins =>
      cases whereSql config.naming s.conditions with
      | error err => rfl
      | ok filter => cases s.groupBy <;> rfl
  | update as =>
    dsimp only [Command.veiled]
    rw [List.isEmpty_map, whereSql_veiled, setSql_veiled]
    split
    · rfl
    · cases whereSql config.naming s.conditions <;> rfl
  | insert as =>
    dsimp only [Command.veiled]
    rw [conflictSql_veiled, valuesSql_veiled]
    cases conflictSql config.naming s.conflict <;> rfl
  | delete =>
    dsimp only [Command.veiled]
    rw [whereSql_veiled]
    cases whereSql config.naming s.conditions <;> rfl

theorem sql_veiled : s.veiled.sql config = (s.sql config).map Sql.veiled := by
  unfold sql
  rw [parts_veiled]
  unfold veiled
  dsimp only
  rw [isInsert_veiled, Option.isSome_map]
  split
  · rfl
  · cases s.parts config with
    | error err => rfl
    | ok ps =>
      show Except.ok (Sql.spaced (ps.map Sql.veiled)) = .ok (Sql.veiled (Sql.spaced ps))
      rw [Sql.veiled_spaced]

theorem countAround_veiled (joins filter : Sql) :
    s.veiled.countAround config (Sql.veiled joins) (Sql.veiled filter) =
      Sql.veiled (s.countAround config joins filter) := by
  unfold countAround veiled
  cases s.groupBy with
  | none =>
    dsimp only
    rw [Sql.veiled_spaced]
    rfl
  | some key =>
    dsimp only
    rw [Sql.veiled_append, Sql.veiled_append, Sql.veiled_spaced]
    rfl

theorem countSql_veiled : s.veiled.countSql config = (s.countSql config).map Sql.veiled := by
  rw [countSql_eq, countSql_eq]
  show ((Join.listSql config (config.naming.bareName s.table) (s.joins.map Join.veiled)).bind
    fun joins => (whereSql config.naming (Condition.listVeiled s.conditions)).map
      (s.veiled.countAround config joins)) = _
  rw [Join.listSql_veiled, whereSql_veiled]
  cases Join.listSql config (config.naming.bareName s.table) s.joins with
  | error err => rfl
  | ok joins =>
    cases whereSql config.naming s.conditions with
    | error err => rfl
    | ok filter => exact congrArg Except.ok (countAround_veiled config s joins filter)

theorem outline_map_veiled (x : Except BuildError Sql) :
    ((x.map Sql.veiled).map Sql.toQuery).map Query.outline =
      (x.map Sql.toQuery).map Query.outline := by
  cases x with
  | error err => rfl
  | ok x => exact congrArg Except.ok (Sql.outline_toQuery_veiled x)

/-- The outline of a statement is that of the veiled one. -/
theorem outline_compile_veiled :
    (s.veiled.compile config).map Query.outline = (s.compile config).map Query.outline := by
  unfold compile
  rw [sql_veiled, outline_map_veiled]

/-- The outline of the count of a statement's rows is that of the veiled one. -/
theorem outline_compileCount_veiled :
    (s.veiled.compileCount config).map Query.outline =
      (s.compileCount config).map Query.outline := by
  unfold compileCount
  rw [countSql_veiled, outline_map_veiled]

end Statement

end SqlCompose
