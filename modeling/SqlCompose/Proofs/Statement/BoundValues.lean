import SqlCompose.Proofs.Condition.Comparison
import SqlCompose.Proofs.Statement.Inversion

/-!
# The values a statement binds

Values are bound clause by clause, in the order in which the clauses of the command are written
(`Statement.values_of_sql`). A count binds those of the joins and of the filter alone
(`Statement.values_of_countSql`).
-/

namespace SqlCompose

namespace Sql

theorem values_of_isBlank {s : Sql} (h : s.isBlank = true) : s.values = [] := by
  induction s with
  | nil => rfl
  | cons x s ih =>
    cases x with
    | text t => exact ih (Bool.and_eq_true_iff.mp h).2
    | bound v => cases h

@[simp] theorem values_joined (separator : String) (parts : List Sql) :
    (joined separator parts).values = parts.flatMap values := by
  induction parts with
  | nil => rfl
  | cons s parts ih =>
    cases parts with
    | nil => exact (List.append_nil _).symm
    | cons t rest =>
      show values (s ++ .text separator :: joined separator (t :: rest)) = _
      rw [values_append, List.flatMap_cons, ← ih]
      rfl

/-- Blank parts bind nothing, so nothing is lost without them. -/
@[simp] theorem values_spaced (parts : List Sql) :
    (spaced parts).values = parts.flatMap values := by
  unfold spaced
  rw [values_joined]
  induction parts with
  | nil => rfl
  | cons s parts ih =>
    cases hb : s.isBlank with
    | true =>
      rw [List.filter_cons_of_neg (by simp [hb]), List.flatMap_cons, values_of_isBlank hb, ih]
      rfl
    | false => rw [List.filter_cons_of_pos (by simp [hb]), List.flatMap_cons, List.flatMap_cons, ih]

/-- Where the SQL is blank, something else that binds nothing may stand for it. -/
theorem values_unless_blank {s blank full : Sql} (hb : blank.values = [])
    (hf : full.values = s.values) : (if s.isBlank then blank else full).values = s.values := by
  split
  · rename_i hs
    rw [hb, values_of_isBlank hs]
  · exact hf

@[simp] theorem values_text (s : String) : values (text s) = [] := rfl

@[simp] theorem values_bind (v : Value) : values (bind v) = [v] := rfl

end Sql

/-! ## Joins -/

/-- The values that a join binds: those of its conditions. -/
def Join.boundValues (j : Join) : List Value :=
  match j.on with
  | .conditions cs => Condition.boundValues cs
  | _ => []

namespace Join

variable {config : Config} {ownTable : String}

theorem values_of_conditionsSql {naming : Naming} {cs : List Condition} {x : Sql}
    (h : conditionsSql naming cs = .ok x) : x.values = Condition.boundValues cs := by
  obtain ⟨tokens, ht, rfl⟩ := conditionsSql_ok h
  refine (Sql.values_unless_blank ?_ ?_).trans (Condition.values_of_clauses ht)
  · rfl
  · rfl

theorem values_of_sql {j : Join} {x : Sql} (h : sql config ownTable j = .ok x) :
    x.values = j.boundValues := by
  unfold boundValues
  rcases sql_ok h with ⟨hon, rfl⟩ | ⟨cs, y, hon, hy, rfl⟩ | ⟨own, joined, hon, rfl⟩
  · rw [hon]
    rfl
  · rw [hon, Sql.values_append, values_of_conditionsSql hy]
    rfl
  · rw [hon]
    rfl

theorem values_of_listSql {joins : List Join} {x : Sql}
    (h : listSql config ownTable joins = .ok x) : x.values = joins.flatMap boundValues := by
  obtain ⟨ys, hys, rfl⟩ := listSql_ok h
  rw [Sql.values_joined]
  clear h
  induction joins generalizing ys with
  | nil =>
    obtain rfl := List.map_eq_nil_iff.mp hys.symm
    rfl
  | cons j joins ih =>
    cases ys with
    | nil => cases hys
    | cons y ys =>
      obtain ⟨hy, hr⟩ := List.cons.inj hys
      rw [List.flatMap_cons, List.flatMap_cons, values_of_sql hy, ih ys hr]

end Join

/-! ## Assignments -/

/-- The value that is bound for an assignment, if one is. -/
def Assigned.bound? : Assigned → Option Value
  | bind v => some v
  | _ => none

/-- The values that assignments bind. -/
def Assignment.boundValues (as : List Assignment) : List Value :=
  as.filterMap fun a => a.value.bound?

/-- The values that are bound for a conflict: those of its update. -/
def Conflict.boundValues (c : Conflict) : List Value :=
  match c.action with
  | .keep => []
  | .update as => Assignment.boundValues as

namespace Statement

variable {naming : Naming}

theorem values_assignedSql (a : Assigned) : (assignedSql a).values = a.bound?.toList := by
  cases a <;> rfl

theorem flatMap_values_assigned (as : List Assignment) {f : Assignment → Sql}
    (hf : ∀ a, (f a).values = a.value.bound?.toList) :
    (as.map f).flatMap Sql.values = Assignment.boundValues as := by
  unfold Assignment.boundValues
  induction as with
  | nil => rfl
  | cons a as ih =>
    rw [List.map_cons, List.flatMap_cons, hf, ih, List.filterMap_cons]
    cases a.value.bound? <;> rfl

theorem values_setSql (as : List Assignment) :
    (setSql naming as).values = Assignment.boundValues as := by
  unfold setSql
  rw [Sql.values_append, Sql.values_joined, flatMap_values_assigned]
  · rfl
  · intro a
    rw [Sql.values_append, values_assignedSql]
    rfl

theorem values_valuesSql (as : List Assignment) :
    (valuesSql naming as).values = Assignment.boundValues as := by
  unfold valuesSql
  split
  · rename_i he
    rw [List.isEmpty_iff.mp he]
    rfl
  · rw [Sql.values_append, Sql.values_append, Sql.values_joined, flatMap_values_assigned]
    · exact List.append_nil _
    · exact fun a => values_assignedSql a.value

theorem values_of_conflictSql {c : Option Conflict} {x : Sql} (h : conflictSql naming c = .ok x) :
    x.values = (c.map Conflict.boundValues).getD [] := by
  rcases conflictSql_ok h with ⟨rfl, rfl⟩ | ⟨keys, rfl, rfl⟩ | ⟨keys, as, rfl, -, rfl⟩
  · rfl
  · rfl
  · rw [Sql.values_append, values_setSql]
    rfl

theorem values_of_whereSql {cs : List Condition} {x : Sql} (h : whereSql naming cs = .ok x) :
    x.values = Condition.boundValues cs := by
  obtain ⟨tokens, ht, rfl⟩ := whereSql_ok h
  refine (Sql.values_unless_blank ?_ ?_).trans (Condition.values_of_clauses ht)
  · rfl
  · rfl

/-! ## Statements -/

/-- The values that the joins and the filter bind. -/
def sourceValues (s : Statement) : List Value :=
  s.joins.flatMap Join.boundValues ++ Condition.boundValues s.conditions

/-- The values that a statement binds, in order. -/
def boundValues (s : Statement) : List Value :=
  match s.command with
  | .select => s.sourceValues
  | .update as => Assignment.boundValues as ++ Condition.boundValues s.conditions
  | .insert as => Assignment.boundValues as ++ (s.conflict.map Conflict.boundValues).getD []
  | .delete => Condition.boundValues s.conditions

variable {config : Config} {s : Statement}

theorem values_group (naming : Naming) (groupBy : Option String) :
    ((groupBy.map fun key => Sql.text (groupText naming key)).getD []).values = [] := by
  cases groupBy <;> rfl

theorem values_of_sql {x : Sql} (h : s.sql config = .ok x) : x.values = s.boundValues := by
  obtain ⟨ps, hps, rfl⟩ := sql_ok h
  rw [Sql.values_spaced]
  unfold boundValues
  cases hc : s.command with
  | select =>
    obtain ⟨joins, filter, hj, hf, rfl⟩ := parts_select_ok hc hps
    simp [selectParts, sourceValues, Join.values_of_listSql hj, values_of_whereSql hf, values_group]
  | update as =>
    obtain ⟨-, filter, hf, rfl⟩ := parts_update_ok hc hps
    simp [values_setSql, values_of_whereSql hf]
  | insert as =>
    obtain ⟨conflict, hk, rfl⟩ := parts_insert_ok hc hps
    simp [values_valuesSql, values_of_conflictSql hk]
  | delete =>
    obtain ⟨filter, hf, rfl⟩ := parts_delete_ok hc hps
    simp [values_of_whereSql hf]

theorem values_of_countSql {x : Sql} (h : s.countSql config = .ok x) :
    x.values = s.sourceValues := by
  obtain ⟨joins, filter, hj, hf, rfl⟩ := countSql_ok h
  unfold countAround sourceValues
  cases s.groupBy with
  | none => simp [Join.values_of_listSql hj, values_of_whereSql hf]
  | some key => simp [Join.values_of_listSql hj, values_of_whereSql hf]

end Statement

end SqlCompose
