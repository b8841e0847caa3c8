import SqlCompose.Proofs.Condition.NullTest
import SqlCompose.Proofs.Statement.Inversion

/-!
# What keeps statements from being written

All that is wrong with a statement is listed in the order of its clauses (`Statement.faults`), and
the first of the list is what writing the statement fails with (`failure?_compile`).
-/

namespace SqlCompose

namespace Join

/-- What is wrong with a join. Without a table its conditions do not matter. -/
def faults (j : Join) : List BuildError :=
  if j.table.isEmpty then [.missingJoinTable]
  else
    match j.on with
    | .conditions cs => Condition.faults cs
    | _ => []

theorem failure?_conditionsSql (naming : Naming) (cs : List Condition) :
    (conditionsSql naming cs).failure? = (Condition.faults cs).head? := by
  rw [conditionsSql_eq, Except.failure?_map, Except.failure?_mapError, Condition.failure?_rootSql]

theorem failure?_sql (config : Config) (ownTable : String) (j : Join) :
    (sql config ownTable j).failure? = j.faults.head? := by
  unfold sql faults
  split
  · rfl
  · cases j.on with
    | conditions cs =>
      show ((conditionsSql config.naming cs).map _).failure? = _
      rw [Except.failure?_map, failure?_conditionsSql]
    | keys own joined => rfl
    | cross => rfl

/-- Joins fail with the first fault in any of them. -/
theorem failure?_listSql (config : Config) (ownTable : String) (joins : List Join) :
    (listSql config ownTable joins).failure? = (joins.flatMap faults).head? := by
  unfold listSql
  rw [Except.failure?_map]
  exact Except.failure?_mapM fun j _ => failure?_sql config ownTable j

/-- A join misses a table, or its conditions cannot be written. -/
theorem eq_or_exists_of_mem_faults {j : Join} {e : BuildError} (h : e ∈ j.faults) :
    (e = .missingJoinTable ∧ j.table = "") ∨
      ∃ cs, j.on = .conditions cs ∧ e ∈ Condition.faults cs := by
  unfold faults at h
  split at h
  · rename_i ht
    exact .inl ⟨List.mem_singleton.mp h, String.isEmpty_iff.mp ht⟩
  · split at h
    · rename_i cs hon
      exact .inr ⟨cs, hon, h⟩
    · cases h

end Join

/-- What is wrong with a command. -/
def Command.faults : Command → List BuildError
  | .update as => if as.isEmpty then [.missingAssignments] else []
  | _ => []

/-- What is wrong with a conflict behind an insert. -/
def Conflict.faults : Conflict → List BuildError
  | ⟨keys, .update _⟩ => if keys.isEmpty then [.missingConflictTarget] else []
  | ⟨_, .keep⟩ => []

namespace Statement

/-- What is wrong with the joins and the conditions of a statement, as far as they are written. -/
def clauseFaults (s : Statement) : List BuildError :=
  match s.command with
  | .select => s.joins.flatMap Join.faults ++ Condition.faults s.conditions
  | .update _ => Condition.faults s.conditions
  | .delete => Condition.faults s.conditions
  | .insert _ => []

/-- Only a select has joins that are written, and only an insert has no conditions. -/
theorem mem_clauseFaults {s : Statement} {e : BuildError} (h : e ∈ s.clauseFaults) :
    (s.command = .select ∧ ∃ j ∈ s.joins, e ∈ j.faults) ∨
      (s.command.isInsert = false ∧ e ∈ Condition.faults s.conditions) := by
  unfold clauseFaults at h
  cases hc : s.command with
  | select =>
    rw [hc] at h
    rcases List.mem_append.mp h with hj | hw
    · exact .inl ⟨rfl, List.mem_flatMap.mp hj⟩
    · exact .inr ⟨rfl, hw⟩
  | insert as =>
    rw [hc] at h
    cases h
  | update as =>
    rw [hc] at h
    exact .inr ⟨rfl, h⟩
  | delete =>
    rw [hc] at h
    exact .inr ⟨rfl, h⟩

/-- A table is missing in a select, or a null value cannot be tested for. -/
theorem cases_of_mem_clauseFaults {s : Statement} {e : BuildError} (h : e ∈ s.clauseFaults) :
    (e = .missingJoinTable ∧ s.command = .select ∧ ∃ j ∈ s.joins, j.table = "") ∨
      (∃ comparer, e = .nullComparison comparer) ∧
        ((s.command = .select ∧ ∃ j ∈ s.joins, ∃ cs, j.on = .conditions cs ∧
            e ∈ Condition.faults cs) ∨
          (s.command.isInsert = false ∧ e ∈ Condition.faults s.conditions)) := by
  rcases mem_clauseFaults h with ⟨hc, j, hj, he⟩ | ⟨hc, he⟩
  · rcases Join.eq_or_exists_of_mem_faults he with ⟨rfl, ht⟩ | ⟨cs, hon, he⟩
    · exact .inl ⟨rfl, hc, j, hj, ht⟩
    · exact .inr ⟨Condition.exists_nullComparison_of_mem_faults he, .inl ⟨hc, j, hj, cs, hon, he⟩⟩
  · exact .inr ⟨Condition.exists_nullComparison_of_mem_faults he, .inr ⟨hc, he⟩⟩

/-- What is wrong with a statement. -/
def faults (s : Statement) : List BuildError :=
  (if s.conflict.isSome ∧ s.command.isInsert = false then [.conflictWithoutInsert] else []) ++
    s.command.faults ++ (s.conflict.map Conflict.faults).getD [] ++ s.clauseFaults

theorem failure?_whereSql (naming : Naming) (cs : List Condition) :
    (whereSql naming cs).failure? = (Condition.faults cs).head? := by
  rw [whereSql_eq, Except.failure?_map, Except.failure?_mapError, Condition.failure?_rootSql]

theorem failure?_conflictSql (naming : Naming) (c : Option Conflict) :
    (conflictSql naming c).failure? = ((c.map Conflict.faults).getD []).head? := by
  rcases c with _ | ⟨keys, _ | as⟩
  · rfl
  · rfl
  · unfold conflictSql
    show _ = (if keys.isEmpty then _ else _ : List BuildError).head?
    dsimp only
    split <;> rfl

variable (config : Config) {s : Statement}

/-- A part behind others that can be written as they are fails as it does alone. -/
theorem failure?_bind_pure {x : Except BuildError Sql} (f : Sql → List Sql) :
    (x >>= fun y => (pure (f y) : Except BuildError (List Sql))).failure? = x.failure? := by
  cases x <;> rfl

theorem failure?_parts (h : s.command.isInsert = false → s.conflict = none) :
    (s.parts config).failure? =
      (s.command.faults ++ (s.conflict.map Conflict.faults).getD [] ++ s.clauseFaults).head? := by
  unfold parts clauseFaults
  cases hc : s.command with
  | select =>
    have hn : s.conflict = none := h (by rw [hc]; rfl)
    dsimp only
    rw [hn, Except.failure?_bind fun joins _ => failure?_bind_pure _, failure?_whereSql,
      Join.failure?_listSql, ← List.head?_append]
    rfl
  | update as =>
    have hn : s.conflict = none := h (by rw [hc]; rfl)
    rw [hn]
    unfold Command.faults
    dsimp only
    split
    · rfl
    · rw [failure?_bind_pure, failure?_whereSql]
      rfl
  | insert as =>
    dsimp only
    rw [failure?_bind_pure, failure?_conflictSql, List.append_nil]
    rfl
  | delete =>
    have hn : s.conflict = none := h (by rw [hc]; rfl)
    dsimp only
    rw [hn, failure?_bind_pure, failure?_whereSql]
    rfl

/-- A statement fails with the first of all that is wrong with it. -/
theorem failure?_compile (s : Statement) : (s.compile config).failure? = s.faults.head? := by
  have hg : (s.conflict.isSome && !s.command.isInsert) = true ↔
      s.conflict.isSome ∧ s.command.isInsert = false := by
    rw [Bool.and_eq_true, Bool.not_eq_true']
  unfold compile sql faults
  rw [Except.failure?_map]
  by_cases h : s.conflict.isSome ∧ s.command.isInsert = false
  · rw [if_pos (hg.mpr h), if_pos h]
    rfl
  · have hi : s.command.isInsert = false → s.conflict = none := fun hc =>
      Option.not_isSome_iff_eq_none.mp fun hk => h ⟨hk, hc⟩
    rw [if_neg (mt hg.mp h), if_neg h, Except.failure?_map, failure?_parts config hi]
    rfl

end Statement

end SqlCompose
