import Mathlib.Data.List.Forall2
import SqlCompose.Proofs.Condition.Leaf
import SqlCompose.Proofs.Statement.Count

/-!
# Filters and joins keep their conditions

A clause that is empty is left out, and an update or a delete without its filter would meet every
row. The WHERE clause is left out just if the conditions have no leaf, and otherwise each leaf has
its part of it (`KeepsFilter`). A join on conditions has an expression either way: it is `TRUE` just
if they have no leaf (`Join.KeepsOn`). All statements that can be written keep their conditions so,
and so do the counts of their rows (`Statement.keepsFilter_of_compile`).
-/

namespace SqlCompose

namespace Condition

/-- The text `e` is an expression of the leaves of the conditions, where the placeholders go on
behind `p`. -/
structure Expresses (naming : Naming) (cs : List Condition) (p : Params) (e : String) : Prop where
  /-- It is made of operators, parentheses and the SQL of the leaves, of each once and in order. -/
  tokens : ∃ ts, e = ((ClauseToken.sqlOf ts).render p).1 ∧
    (listComparisons .eq cs).map (Comparison.sql? naming) = (ClauseToken.comparisons ts).map some
  /-- Each leaf, at whatever depth, has its text in it. -/
  leaf : ∀ c : Condition, c.IsLeaf → Within c cs → ∃ x ∈ listComparisons .eq cs, x.node = c ∧
    ∃ s, x.sql? naming = some s ∧ ∃ before q after, e = before ++ (s.render q).1 ++ after

/-- The text `w` is the WHERE clause of the conditions, behind the parameters `p`, and it is empty
just if they have no leaf. -/
structure KeepsFilter (naming : Naming) (cs : List Condition) (p : Params) (w : String) : Prop where
  eq_empty_iff : w = "" ↔ ¬ HasLeaf cs
  expression : HasLeaf cs → ∃ e, w = "WHERE " ++ e ∧ Expresses naming cs p e

variable {naming : Naming} {cs : List Condition} {tokens : List ClauseToken}

theorem expresses_of_clauses (h : clauses naming .and .eq cs = .ok tokens) (p : Params) :
    Expresses naming cs p ((ClauseToken.sqlOf tokens).render p).1 := by
  have hm := listComparisons_of_clauses h
  refine ⟨⟨tokens, rfl, hm⟩, fun c hl hw => ?_⟩
  obtain ⟨x, hx, hn⟩ := exists_comparison_of_within hl hw .eq
  have hs : x.sql? naming ∈ (ClauseToken.comparisons tokens).map some := by
    rw [← hm]
    exact List.mem_map_of_mem hx
  obtain ⟨s, hs, he⟩ := List.mem_map.mp hs
  exact ⟨x, hx, hn, s, he.symm, exists_render_of_mem_comparisons hs p⟩

/-- An expression is blank just if there are no leaves. -/
theorem isBlank_sqlOf_iff (h : clauses naming .and .eq cs = .ok tokens) :
    (ClauseToken.sqlOf tokens).isBlank = true ↔ ¬ HasLeaf cs := by
  rw [← Sql.isEmpty_render .empty, ← render_clauses_eq_empty_iff h .empty]
  exact String.isEmpty_iff

theorem keepsFilter_of_whereSql {x : Sql} (h : Statement.whereSql naming cs = .ok x) (p : Params) :
    KeepsFilter naming cs p (x.render p).1 := by
  obtain ⟨tokens, ht, rfl⟩ := Statement.whereSql_ok h
  by_cases hb : (ClauseToken.sqlOf tokens).isBlank = true
  · have hl := (isBlank_sqlOf_iff ht).mp hb
    rw [if_pos hb]
    exact ⟨iff_of_true rfl hl, fun h => absurd h hl⟩
  · rw [if_neg hb]
    have hl : HasLeaf cs := by
      by_contra hl
      exact hb ((isBlank_sqlOf_iff ht).mpr hl)
    have hw : ((Sql.text "WHERE " ++ ClauseToken.sqlOf tokens).render p).1 =
        "WHERE " ++ ((ClauseToken.sqlOf tokens).render p).1 := rfl
    rw [hw]
    refine ⟨iff_of_false ?_ fun hn => hn hl, fun _ => ⟨_, rfl, expresses_of_clauses ht p⟩⟩
    simp

end Condition

open Condition

namespace Join

/-- The text `c` is the clause of a join. Unless all rows are joined it has an expression, and for
conditions this is `TRUE` just if they have no leaf. -/
def KeepsOn (config : Config) (j : Join) (c : String) : Prop :=
  let table := config.naming.bareName j.table
  let head := j.required.keyword ++ " " ++ table ++ " ON "
  match j.on with
  | .cross => c = "CROSS JOIN " ++ table
  | .keys _ _ => ∃ e, c = head ++ e ∧ e ≠ ""
  | .conditions cs => ∃ e, c = head ++ e ∧ e ≠ "" ∧ (e = "TRUE" ↔ ¬ HasLeaf cs) ∧
      (HasLeaf cs → ∃ p, Expresses config.naming cs p e)

variable {config : Config} {ownTable : String}

theorem keepsOn_of_sql {j : Join} {x : Sql} (h : sql config ownTable j = .ok x) (p : Params) :
    KeepsOn config j (x.render p).1 := by
  unfold KeepsOn
  rcases sql_ok h with ⟨hon, rfl⟩ | ⟨cs, y, hon, hy, rfl⟩ | ⟨own, joined, hon, rfl⟩
  · rw [hon]
    exact Sql.render_text p _
  · rw [hon]
    refine ⟨(y.render p).1, rfl, ?_⟩
    obtain ⟨tokens, ht, rfl⟩ := conditionsSql_ok hy
    by_cases hb : (ClauseToken.sqlOf tokens).isBlank = true
    · have hl := (isBlank_sqlOf_iff ht).mp hb
      rw [if_pos hb, Sql.render_text]
      exact ⟨by decide, iff_of_true rfl hl, fun h => absurd h hl⟩
    · have hl : HasLeaf cs := Classical.not_not.mp fun hl => hb ((isBlank_sqlOf_iff ht).mpr hl)
      have hs := space_mem_render_clauses ht hl p
      rw [if_neg hb]
      refine ⟨fun he => ?_, iff_of_false (fun he => ?_) fun hn => hn hl,
        fun _ => ⟨p, expresses_of_clauses ht p⟩⟩
      · rw [he] at hs
        exact absurd hs (by decide)
      · rw [he] at hs
        exact absurd hs (by decide)
  · rw [hon]
    refine ⟨_, rfl, ?_⟩
    simp [keysText]

theorem forall₂_keepsOn {joins : List Join} {ys : List Sql}
    (h : joins.map (sql config ownTable) = ys.map .ok) (p : Params) :
    List.Forall₂ (KeepsOn config) joins (Sql.texts p ys) := by
  induction joins generalizing ys p with
  | nil =>
    obtain rfl := List.map_eq_nil_iff.mp h.symm
    exact .nil
  | cons j joins ih =>
    cases ys with
    | nil => cases h
    | cons y ys =>
      obtain ⟨hy, hr⟩ := List.cons.inj h
      exact .cons (keepsOn_of_sql hy p) (ih hr _)

end Join

namespace Statement

variable {config : Config} {s : Statement}

/-- The text of what is read from: the table, join clauses and a filter. -/
def sourceOf (config : Config) (s : Statement) (joins : List String) (filter : String) : String :=
  Text.spaced [config.naming.bareName s.table, " ".intercalate joins, filter]

/-- The parameters in front of the filter of what is read from. -/
def joinParams (s : Statement) : Params := ⟨s.joins.flatMap Join.boundValues⟩

/-- The source keeps the conditions of its joins and of its filter. -/
theorem exists_sourceText {joins filter : Sql}
    (hj : Join.listSql config (config.naming.bareName s.table) s.joins = .ok joins)
    (hf : whereSql config.naming s.conditions = .ok filter) :
    ∃ cs w, s.sourceText config joins filter = s.sourceOf config cs w ∧
      List.Forall₂ (Join.KeepsOn config) s.joins cs ∧
      KeepsFilter config.naming s.conditions s.joinParams w := by
  have hv := Join.values_of_listSql hj
  obtain ⟨ys, hys, rfl⟩ := Join.listSql_ok hj
  refine ⟨_, _, ?_, Join.forall₂_keepsOn hys .empty, keepsFilter_of_whereSql hf _⟩
  unfold sourceText sourceOf joinParams
  rw [hv, Sql.render_joined]
  rfl

/-- No condition is lost. Where a select, an update or a delete can be written, and where rows can
be counted, there is a WHERE clause just if the conditions have a leaf at some depth, and each leaf
has its part of it. The joins of a select and of a count have an expression unless they join all
rows, and that of conditions is `TRUE` just if they have no leaf. -/
theorem keepsFilter_of_compile (config : Config) (s : Statement) :
    (∀ q, s.command = .select → s.compile config = .ok q → ∃ cs w,
      q.sql = s.selectText config (s.sourceOf config cs w) ∧
      List.Forall₂ (Join.KeepsOn config) s.joins cs ∧
      KeepsFilter config.naming s.conditions s.joinParams w) ∧
    (∀ q as, s.command = .update as → s.compile config = .ok q → ∃ w,
      q.sql = Text.spaced ["UPDATE", config.naming.bareName s.table,
        ((setSql config.naming as).render .empty).1, w, "RETURNING",
        keysText config.naming s.keys false] ∧
      KeepsFilter config.naming s.conditions ⟨Assignment.boundValues as⟩ w) ∧
    (∀ q, s.command = .delete → s.compile config = .ok q → ∃ w,
      q.sql = Text.spaced ["DELETE FROM", config.naming.bareName s.table, w] ∧
      KeepsFilter config.naming s.conditions .empty w) ∧
    ∀ q, s.compileCount config = .ok q → ∃ cs w,
      q.sql = s.countText config (s.sourceOf config cs w) ∧
      List.Forall₂ (Join.KeepsOn config) s.joins cs ∧
      KeepsFilter config.naming s.conditions s.joinParams w := by
  refine ⟨fun q hc h => ?_, fun q as hc h => ?_, fun q hc h => ?_, fun q h => ?_⟩
  · obtain ⟨x, hx, rfl⟩ := map_eq_ok h
    obtain ⟨ps, hps, rfl⟩ := sql_ok hx
    obtain ⟨joins, filter, hj, hf, rfl⟩ := parts_select_ok hc hps
    obtain ⟨cs, w, hs, hcs, hw⟩ := exists_sourceText hj hf
    refine ⟨cs, w, ?_, hcs, hw⟩
    rw [toQuery_select, hs]
  · obtain ⟨x, hx, rfl⟩ := map_eq_ok h
    obtain ⟨ps, hps, rfl⟩ := sql_ok hx
    obtain ⟨-, filter, hf, rfl⟩ := parts_update_ok hc hps
    refine ⟨(filter.render ⟨Assignment.boundValues as⟩).1, ?_, keepsFilter_of_whereSql hf _⟩
    have hv : Params.empty.append (setSql config.naming as).values =
        ⟨Assignment.boundValues as⟩ := by
      rw [values_setSql]
      rfl
    rw [Sql.toQuery_eq, Sql.render_spaced, ← hv]
    simp only [Sql.texts, Sql.render_text, Sql.values_text, Params.append_nil]
  · obtain ⟨x, hx, rfl⟩ := map_eq_ok h
    obtain ⟨ps, hps, rfl⟩ := sql_ok hx
    obtain ⟨filter, hf, rfl⟩ := parts_delete_ok hc hps
    refine ⟨(filter.render .empty).1, ?_, keepsFilter_of_whereSql hf _⟩
    rw [Sql.toQuery_eq, Sql.render_spaced]
    simp only [Sql.texts, Sql.render_text, Sql.values_text, Params.append_nil]
  · obtain ⟨x, hx, rfl⟩ := map_eq_ok h
    obtain ⟨joins, filter, hj, hf, rfl⟩ := countSql_ok hx
    obtain ⟨cs, w, hs, hcs, hw⟩ := exists_sourceText hj hf
    refine ⟨cs, w, ?_, hcs, hw⟩
    rw [toQuery_count, hs]

/-- Orders with one leaf, of an empty key, among groups without any. -/
def lateOrders (command : Command) : Statement where
  table := "orders"
  command := command
  conditions := [.group (.logical .or) [.group (.compare .gt) [], .leaf "" (.int 5)]]
  joins := [⟨"users", .conditions [.group (.compare .ne) []], .both⟩, .cross "days"]

theorem keepsFilter_of_lateOrders :
    (∃ q cs w, (lateOrders .select).compile {} = .ok q ∧
      q.sql = "SELECT * FROM orders INNER JOIN users ON TRUE CROSS JOIN days WHERE ( = $1)" ∧
      q.sql = (lateOrders .select).selectText {} ((lateOrders .select).sourceOf {} cs w) ∧
      List.Forall₂ (Join.KeepsOn {}) (lateOrders .select).joins cs ∧
      KeepsFilter ({} : Config).naming (lateOrders .select).conditions .empty w) ∧
    (∃ q w, (lateOrders (.update [⟨"late", .bind (.bool true)⟩])).compile {} = .ok q ∧
      q.sql = "UPDATE orders SET \"late\" = $1 WHERE ( = $2) RETURNING *" ∧
      KeepsFilter ({} : Config).naming (lateOrders .delete).conditions ⟨[.bool true]⟩ w) ∧
    (∃ q w, (lateOrders .delete).compile {} = .ok q ∧
      q.sql = "DELETE FROM orders WHERE ( = $1)" ∧
      q.sql = Text.spaced ["DELETE FROM", "orders", w] ∧
      KeepsFilter ({} : Config).naming (lateOrders .delete).conditions .empty w) ∧
    ∃ q cs w, (lateOrders .delete).compileCount {} = .ok q ∧
      q.sql = (lateOrders .delete).countText {} ((lateOrders .delete).sourceOf {} cs w) ∧
      List.Forall₂ (Join.KeepsOn {}) (lateOrders .delete).joins cs := by
  obtain ⟨hs, -, -, -⟩ := keepsFilter_of_compile {} (lateOrders .select)
  obtain ⟨-, hu, -, -⟩ :=
    keepsFilter_of_compile {} (lateOrders (.update [⟨"late", .bind (.bool true)⟩]))
  obtain ⟨-, -, hd, hn⟩ := keepsFilter_of_compile {} (lateOrders .delete)
  refine ⟨?_, ?_, ?_, ?_⟩
  · obtain ⟨cs, w, hq, hj, hw⟩ := hs _ rfl rfl
    exact ⟨_, cs, w, rfl, by rfl, hq, hj, hw⟩
  · obtain ⟨w, -, hw⟩ := hu _ _ rfl rfl
    exact ⟨_, w, rfl, by rfl, hw⟩
  · obtain ⟨w, hq, hw⟩ := hd _ rfl rfl
    exact ⟨_, w, rfl, by rfl, hq, hw⟩
  · obtain ⟨cs, w, hq, hj, -⟩ := hn _ rfl
    exact ⟨_, cs, w, rfl, hq, hj⟩

end Statement

end SqlCompose
