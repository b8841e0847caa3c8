import SqlCompose.Proofs.Failure
import SqlCompose.Statement.Clause

/-!
# Statements that can be written

What has to have been written for each clause where a whole statement could be. The lemmas go one
level down each: from a statement to its clauses, from joins to each join, and from a clause to its
conditions.
-/

namespace SqlCompose

theorem Condition.rootSql_ok {naming : Naming} {cs : List Condition} {x : Sql}
    (h : rootSql naming cs = .ok x) :
    ∃ tokens, clauses naming .and .eq cs = .ok tokens ∧ x = ClauseToken.sqlOf tokens :=
  map_eq_ok h

namespace Join

theorem conditionsSql_eq (naming : Naming) (cs : List Condition) :
    conditionsSql naming cs = ((Condition.rootSql naming cs).mapError Unwritable.cause).map
      fun sql => if sql.isBlank then Sql.text "TRUE" else sql := by
  unfold conditionsSql
  cases Condition.rootSql naming cs <;> rfl

theorem conditionsSql_ok {naming : Naming} {cs : List Condition} {x : Sql}
    (h : conditionsSql naming cs = .ok x) :
    ∃ tokens, Condition.clauses naming .and .eq cs = .ok tokens ∧
      x = if (ClauseToken.sqlOf tokens).isBlank then Sql.text "TRUE"
        else ClauseToken.sqlOf tokens := by
  unfold conditionsSql at h
  split at h
  · cases h
  · rename_i sql hs
    cases h
    obtain ⟨tokens, ht, rfl⟩ := Condition.rootSql_ok hs
    exact ⟨tokens, ht, rfl⟩

variable {config : Config} {ownTable : String}

theorem sql_ok {j : Join} {x : Sql} (h : sql config ownTable j = .ok x) :
    let table := config.naming.bareName j.table
    let head := Sql.text (j.required.keyword ++ " " ++ table ++ " ON ")
    (j.on = .cross ∧ x = Sql.text ("CROSS JOIN " ++ table)) ∨
    (∃ cs y, j.on = .conditions cs ∧ conditionsSql config.naming cs = .ok y ∧ x = head ++ y) ∨
    (∃ own joined, j.on = .keys own joined ∧
      x = head ++ Sql.text (keysText config ownTable table own joined)) := by
  unfold sql at h
  split at h
  · cases h
  · split at h
    · rename_i hon
      cases h
      exact .inl ⟨hon, rfl⟩
    · rename_i cs hon
      obtain ⟨y, hy, rfl⟩ := map_eq_ok h
      exact .inr (.inl ⟨cs, y, hon, hy, rfl⟩)
    · rename_i own joined hon
      cases h
      exact .inr (.inr ⟨own, joined, hon, rfl⟩)

theorem listSql_ok {joins : List Join} {x : Sql} (h : listSql config ownTable joins = .ok x) :
    ∃ ys, joins.map (sql config ownTable) = ys.map .ok ∧ x = Sql.joined " " ys := by
  obtain ⟨ys, hys, rfl⟩ := map_eq_ok h
  exact ⟨ys, map_of_mapM_eq_ok hys, rfl⟩

end Join

namespace Statement

theorem whereSql_eq (naming : Naming) (cs : List Condition) :
    whereSql naming cs = ((Condition.rootSql naming cs).mapError Unwritable.cause).map
      fun sql => if sql.isBlank then [] else Sql.text "WHERE " ++ sql := by
  unfold whereSql
  cases Condition.rootSql naming cs <;> rfl

theorem whereSql_ok {naming : Naming} {cs : List Condition} {x : Sql}
    (h : whereSql naming cs = .ok x) :
    ∃ tokens, Condition.clauses naming .and .eq cs = .ok tokens ∧
      x = if (ClauseToken.sqlOf tokens).isBlank then []
        else Sql.text "WHERE " ++ ClauseToken.sqlOf tokens := by
  unfold whereSql at h
  split at h
  · cases h
  · rename_i sql hs
    cases h
    obtain ⟨tokens, ht, rfl⟩ := Condition.rootSql_ok hs
    exact ⟨tokens, ht, rfl⟩

variable {config : Config} {s : Statement}

theorem sql_ok {x : Sql} (h : s.sql config = .ok x) :
    ∃ ps, s.parts config = .ok ps ∧ x = Sql.spaced ps := by
  unfold sql at h
  split at h
  · cases h
  · exact map_eq_ok h

/-- The parts of a select around its joins and its filter. -/
def selectParts (config : Config) (s : Statement) (joins filter : Sql) : List Sql :=
  [Sql.text "SELECT", Sql.text (keysText config.naming s.keys s.hasWindowTotal),
    Sql.text "FROM", Sql.text (config.naming.bareName s.table), joins, filter,
    (s.groupBy.map fun key => Sql.text (groupText config.naming key)).getD [],
    Sql.text (sortingText config.naming s.sorting), Sql.text (offsetText s.offset),
    Sql.text (limitText s.limit)]

/-- The count of rows around their joins and their filter. -/
def countAround (config : Config) (s : Statement) (joins filter : Sql) : Sql :=
  match s.groupBy with
  | none => Sql.spaced [Sql.text "SELECT count(*) AS count FROM",
      Sql.text (config.naming.bareName s.table), joins, filter]
  | some key => Sql.text "SELECT count(*) AS count FROM (" ++
      Sql.spaced [Sql.text "SELECT 1 FROM", Sql.text (config.naming.bareName s.table), joins,
        filter, Sql.text (groupText config.naming key)] ++ Sql.text ") AS t"

theorem parts_select_ok {ps : List Sql} (hc : s.command = .select) (h : s.parts config = .ok ps) :
    ∃ joins filter, Join.listSql config (config.naming.bareName s.table) s.joins = .ok joins ∧
      whereSql config.naming s.conditions = .ok filter ∧
      ps = s.selectParts config joins filter := by
  unfold parts at h
  simp only [hc] at h
  obtain ⟨joins, hj, h⟩ := bind_eq_ok h
  obtain ⟨filter, hf, h⟩ := bind_eq_ok h
  cases h
  exact ⟨joins, filter, hj, hf, rfl⟩

theorem parts_update_ok {ps : List Sql} {as : List Assignment} (hc : s.command = .update as)
    (h : s.parts config = .ok ps) :
    as ≠ [] ∧ ∃ filter, whereSql config.naming s.conditions = .ok filter ∧
      ps = [Sql.text "UPDATE", Sql.text (config.naming.bareName s.table), setSql config.naming as,
        filter, Sql.text "RETURNING", Sql.text (keysText config.naming s.keys false)] := by
  unfold parts at h
  simp only [hc] at h
  split at h
  · cases h
  · rename_i hn
    obtain ⟨filter, hf, h⟩ := bind_eq_ok h
    cases h
    refine ⟨?_, filter, hf, rfl⟩
    rintro rfl
    exact hn rfl

theorem parts_insert_ok {ps : List Sql} {as : List Assignment} (hc : s.command = .insert as)
    (h : s.parts config = .ok ps) :
    ∃ conflict, conflictSql config.naming s.conflict = .ok conflict ∧
      ps = [Sql.text "INSERT INTO", Sql.text (config.naming.bareName s.table),
        valuesSql config.naming as, conflict, Sql.text "RETURNING",
        Sql.text (keysText config.naming s.keys false)] := by
  unfold parts at h
  simp only [hc] at h
  obtain ⟨conflict, hk, h⟩ := bind_eq_ok h
  cases h
  exact ⟨conflict, hk, rfl⟩

theorem parts_delete_ok {ps : List Sql} (hc : s.command = .delete) (h : s.parts config = .ok ps) :
    ∃ filter, whereSql config.naming s.conditions = .ok filter ∧
      ps = [Sql.text "DELETE FROM", Sql.text (config.naming.bareName s.table), filter] := by
  unfold parts at h
  simp only [hc] at h
  obtain ⟨filter, hf, h⟩ := bind_eq_ok h
  cases h
  exact ⟨filter, hf, rfl⟩

theorem conflictSql_ok {naming : Naming} {c : Option Conflict} {x : Sql}
    (h : conflictSql naming c = .ok x) :
    (c = none ∧ x = []) ∨
    (∃ keys, c = some ⟨keys, .keep⟩ ∧
      x = Sql.text ("ON CONFLICT" ++ targetText naming keys ++ " DO NOTHING")) ∨
    (∃ keys as, c = some ⟨keys, .update as⟩ ∧ keys ≠ [] ∧
      x = Sql.text ("ON CONFLICT" ++ targetText naming keys ++ " DO UPDATE ") ++
        setSql naming as) := by
  rcases c with _ | ⟨keys, _ | as⟩
  · cases h
    exact .inl ⟨rfl, rfl⟩
  · cases h
    exact .inr (.inl ⟨keys, rfl, rfl⟩)
  · simp only [conflictSql] at h
    split at h
    · cases h
    · rename_i hn
      cases h
      refine .inr (.inr ⟨keys, as, rfl, ?_, rfl⟩)
      rintro rfl
      exact hn rfl

/-- A count is written from the joins and the filter of its statement alone. -/
theorem countSql_eq (config : Config) (s : Statement) :
    s.countSql config =
      (Join.listSql config (config.naming.bareName s.table) s.joins).bind fun joins =>
        (whereSql config.naming s.conditions).map (s.countAround config joins) := by
  unfold countSql countAround
  dsimp only
  cases Join.listSql config (config.naming.bareName s.table) s.joins with
  | error err => rfl
  | ok joins =>
    cases whereSql config.naming s.conditions with
    | error err => rfl
    | ok filter => cases s.groupBy <;> rfl

theorem countSql_ok {x : Sql} (h : s.countSql config = .ok x) :
    ∃ joins filter, Join.listSql config (config.naming.bareName s.table) s.joins = .ok joins ∧
      whereSql config.naming s.conditions = .ok filter ∧ x = s.countAround config joins filter := by
  rw [countSql_eq] at h
  obtain ⟨joins, hj, h⟩ := bind_eq_ok h
  obtain ⟨filter, hf, h⟩ := map_eq_ok h
  exact ⟨joins, filter, hj, hf, h⟩

/-- The rows of a select can be counted where it can be written. -/
theorem exists_compileCount {q : Query} (hc : s.command = .select) (h : s.compile config = .ok q) :
    ∃ count, s.compileCount config = .ok count := by
  obtain ⟨x, hx, -⟩ := map_eq_ok h
  obtain ⟨ps, hps, -⟩ := sql_ok hx
  obtain ⟨joins, filter, hj, hf, -⟩ := parts_select_ok hc hps
  unfold compileCount
  rw [countSql_eq, hj, hf]
  exact ⟨_, rfl⟩

end Statement

end SqlCompose
