import Mathlib.Tactic.ByContra
import SqlCompose.Proofs.Condition.NullTest

/-!
# The outcome of writing conditions

A leaf compares as the innermost comparison group around it says. So it is known of each leaf on its
own, from the groups around it, whether it can be written, and this decides what becomes of the
conditions: they are written, or fail at the first leaf that cannot be, and the parameters hold the
values of the leaves before it (`renderBehind_sql`).
-/

namespace SqlCompose

/-- The comparer that a modifier puts in force, if it does. -/
def Modifier.comparer? : Modifier → Option Comparer
  | .logical _ => none
  | .compare c => some c

/-- A leaf of conditions, with the modifiers of the groups around it, the innermost first. -/
structure Occurrence where
  around : List Modifier
  /-- Is the left side SQL and the value written in place? -/
  inPlace : Bool
  /-- The key of a column, or the SQL. -/
  key : String
  value : Value

namespace Occurrence

/-- The comparer of the innermost comparison group around the leaf, or `start` outside of all. -/
def comparer (start : Comparer) (o : Occurrence) : Comparer :=
  (o.around.findSome? Modifier.comparer?).getD start

/-- Is the value null, and the comparer none that stands for a test for null? -/
def Untestable (start : Comparer) (o : Occurrence) : Prop :=
  o.value.isNull = true ∧ o.comparer start ≠ .eq ∧ o.comparer start ≠ .ne

instance (start : Comparer) (o : Occurrence) : Decidable (o.Untestable start) :=
  inferInstanceAs (Decidable (_ ∧ _ ∧ _))

/-- The value that is bound, if one is. -/
def bound? (o : Occurrence) : Option Value :=
  if o.inPlace || o.value.isNull then none else some o.value

/-- The leaf under the comparer in force. -/
def comparison (start : Comparer) (o : Occurrence) : Comparison :=
  ⟨o.comparer start, o.inPlace, o.key, o.value⟩

variable {start : Comparer} {o : Occurrence}

theorem fault?_comparison_of_untestable (h : o.Untestable start) :
    (o.comparison start).fault? = some (.nullComparison (o.comparer start)) := if_pos h

theorem fault?_comparison_eq_none_iff :
    (o.comparison start).fault? = none ↔ ¬ o.Untestable start := by
  refine ⟨fun h hu => ?_, fun h => if_neg h⟩
  cases h.symm.trans (fault?_comparison_of_untestable hu)

end Occurrence

namespace Condition

mutual

/-- The leaves of a condition, in the order of the text, where the groups around it have the
modifiers `around`. -/
def occurrences (around : List Modifier) : Condition → List Occurrence
  | .leaf key value => [⟨around, false, key, value⟩]
  | .raw expression value => [⟨around, true, expression, value⟩]
  | .group m children => listOccurrences (m :: around) children

/-- The leaves of conditions, in the order of the text. -/
def listOccurrences (around : List Modifier) : List Condition → List Occurrence
  | [] => []
  | c :: cs => occurrences around c ++ listOccurrences around cs

end

/-- The values that the leaves bind, in order. -/
def valuesOf (os : List Occurrence) : List Value := os.filterMap Occurrence.bound?

variable (start : Comparer)

mutual

theorem comparisons_eq (around : List Modifier) : ∀ c : Condition,
    comparisons ((around.findSome? Modifier.comparer?).getD start) c =
      (occurrences around c).map (Occurrence.comparison start)
  | .leaf _ _ => rfl
  | .raw _ _ => rfl
  | .group (.logical c) children => listComparisons_eq (.logical c :: around) children
  | .group (.compare c) children => listComparisons_eq (.compare c :: around) children

/-- The comparer in force at a leaf is the one of the groups around it. -/
theorem listComparisons_eq (around : List Modifier) : ∀ cs : List Condition,
    listComparisons ((around.findSome? Modifier.comparer?).getD start) cs =
      (listOccurrences around cs).map (Occurrence.comparison start)
  | [] => rfl
  | c :: cs => by
    rw [listComparisons, listOccurrences, List.map_append, comparisons_eq around c,
      listComparisons_eq around cs]

end

variable (naming : Naming) (op : Connective) (wrapped : Bool)

theorem failure?_sql (cs : List Condition) : (sql naming op start wrapped cs).failure? =
    Comparison.firstFault ((listOccurrences [] cs).map (Occurrence.comparison start)) := by
  unfold sql
  rw [Except.failure?_map, failure?_clauses, ← listComparisons_eq start []]
  rfl

theorem values_sql {cs : List Condition} {s : Sql} (h : sql naming op start wrapped cs = .ok s) :
    s.values = valuesOf (listOccurrences [] cs) := by
  obtain ⟨ts, hts, rfl⟩ := map_eq_ok h
  have hv : (ClauseToken.sqlOf ts).values = valuesOf (listOccurrences [] cs) := by
    rw [values_of_clauses hts]
    show (listComparisons ((List.findSome? Modifier.comparer? []).getD start) cs).filterMap _ = _
    rw [listComparisons_eq, List.filterMap_map]
    rfl
  rw [ClauseToken.values_sqlOf] at hv ⊢
  split
  · rwa [ClauseToken.comparisons_parenthesized]
  · exact hv

/-- Conditions are written if all their leaves can be. -/
theorem failure?_sql_eq_none_iff (cs : List Condition) :
    (sql naming op start wrapped cs).failure? = none ↔
      ∀ o ∈ listOccurrences [] cs, ¬ o.Untestable start := by
  rw [failure?_sql, Comparison.firstFault_eq_none_iff, List.forall_mem_map]
  exact forall₂_congr fun o _ => Occurrence.fault?_comparison_eq_none_iff

variable {start naming op wrapped} {cs : List Condition} (p : Params)

/-- If all leaves can be written, the values of all are bound. -/
theorem renderBehind_sql_ok (h : ∀ o ∈ listOccurrences [] cs, ¬ o.Untestable start) :
    ∃ text, renderBehind p (sql naming op start wrapped cs) =
      (.ok text, p.append (valuesOf (listOccurrences [] cs))) := by
  obtain ⟨s, hs⟩ := Except.failure?_eq_none_iff.mp
    ((failure?_sql_eq_none_iff start naming op wrapped cs).mpr h)
  rw [hs, renderBehind, Sql.render_snd, values_sql start naming op wrapped hs]
  exact ⟨_, rfl⟩

/-- The first leaf that cannot be written is what the conditions fail with, and the values of the
leaves before it stay bound. -/
theorem renderBehind_sql_error {before after : List Occurrence} {o : Occurrence}
    (hs : listOccurrences [] cs = before ++ o :: after)
    (hb : ∀ b ∈ before, ¬ b.Untestable start) (ho : o.Untestable start) :
    renderBehind p (sql naming op start wrapped cs) =
      (.error (.nullComparison (o.comparer start)), p.append (valuesOf before)) := by
  have hf : (sql naming op start wrapped cs).failure? =
      some ⟨.nullComparison (o.comparer start), valuesOf before⟩ := by
    rw [failure?_sql, hs, List.map_append, List.map_cons, Comparison.firstFault_first
      (List.forall_mem_map.mpr fun b hm => Occurrence.fault?_comparison_eq_none_iff.mpr (hb b hm))
      (Occurrence.fault?_comparison_of_untestable ho), List.filterMap_map]
    rfl
  rw [Except.failure?_eq_some_iff.mp hf]
  rfl

/-- The outcome of writing conditions behind the parameters `p`. They cannot be written just if one
of their leaves is null under a comparer without a test for null. Then the first such leaf decides
the failure, and the parameters are those there were and the values of the leaves before it.
Otherwise they are those there were and the values of all leaves. -/
theorem renderBehind_sql (naming : Naming) (op : Connective) (start : Comparer) (wrapped : Bool)
    (cs : List Condition) (p : Params) :
    ((∃ e q, renderBehind p (sql naming op start wrapped cs) = (.error e, q)) ↔
      ∃ o ∈ listOccurrences [] cs, o.Untestable start) ∧
    (∀ before o after, listOccurrences [] cs = before ++ o :: after →
      (∀ b ∈ before, ¬ b.Untestable start) → o.Untestable start →
      renderBehind p (sql naming op start wrapped cs) =
        (.error (.nullComparison (o.comparer start)), p.append (valuesOf before))) ∧
    ((∀ o ∈ listOccurrences [] cs, ¬ o.Untestable start) →
      ∃ text, renderBehind p (sql naming op start wrapped cs) =
        (.ok text, p.append (valuesOf (listOccurrences [] cs)))) := by
  refine ⟨?_, fun _ _ _ hs hb ho => renderBehind_sql_error p hs hb ho,
    fun h => renderBehind_sql_ok p h⟩
  have hn := failure?_sql_eq_none_iff start naming op wrapped cs
  constructor
  · rintro ⟨e, q, he⟩
    by_contra h
    obtain ⟨text, ht⟩ : ∃ text, renderBehind p (sql naming op start wrapped cs) = (.ok text, _) :=
      renderBehind_sql_ok p fun o ho hu => h ⟨o, ho, hu⟩
    cases he.symm.trans ht
  · rintro ⟨o, ho, hu⟩
    cases hs : sql naming op start wrapped cs with
    | error u => exact ⟨u.cause, p.append u.bound, rfl⟩
    | ok s => exact absurd hu (hn.mp (Except.failure?_eq_none_iff.mpr ⟨s, hs⟩) o ho)

/-- A column that is compared with null inside of a group that compares for greater. -/
def nullBelowGreater : List Condition :=
  [.leaf "a" (.int 1), .group (.compare .gt)
    [.raw "b" (.int 2), .leaf "c" (.int 3),
      .group (.logical .or) [.leaf "d" .null, .leaf "e" (.int 4)]]]

/-- The leaves before the null. -/
def beforeNull : List Occurrence :=
  [⟨[], false, "a", .int 1⟩, ⟨[.compare .gt], true, "b", .int 2⟩,
    ⟨[.compare .gt], false, "c", .int 3⟩]

theorem renderBehind_sql_nullBelowGreater :
    listOccurrences [] nullBelowGreater =
      beforeNull ++ ⟨[.logical .or, .compare .gt], false, "d", .null⟩ ::
        [⟨[.logical .or, .compare .gt], false, "e", .int 4⟩] ∧
    (∀ b ∈ beforeNull, ¬ b.Untestable .eq) ∧
    Occurrence.Untestable .eq ⟨[.logical .or, .compare .gt], false, "d", .null⟩ ∧
    renderBehind ⟨[.bool true]⟩ (sql ⟨.snake, .camel⟩ .and .eq true nullBelowGreater) =
      (.error (.nullComparison .gt), ⟨[.bool true, .int 1, .int 3]⟩) := by
  have hs : listOccurrences [] nullBelowGreater =
      beforeNull ++ ⟨[.logical .or, .compare .gt], false, "d", .null⟩ ::
        [⟨[.logical .or, .compare .gt], false, "e", .int 4⟩] := rfl
  have hb : ∀ b ∈ beforeNull, ¬ b.Untestable .eq := by decide
  have ho : Occurrence.Untestable .eq ⟨[.logical .or, .compare .gt], false, "d", .null⟩ := by decide
  exact ⟨hs, hb, ho, (renderBehind_sql ⟨.snake, .camel⟩ .and .eq true nullBelowGreater
    ⟨[.bool true]⟩).2.1 _ _ _ hs hb ho⟩

end Condition

end SqlCompose
