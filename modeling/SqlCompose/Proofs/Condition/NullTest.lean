import SqlCompose.Proofs.Condition.Comparison
import SqlCompose.Proofs.Failure

/-!
# Comparisons with null

A null value is tested for and not compared, and only equality and its opposite stand for a test.
Null under any other comparer is all that can keep conditions from being written. If there are
several, the first in the order of the text counts, and the values in front of it stay bound
(`failure?_clauses`).
-/

namespace SqlCompose

namespace Comparison

variable (c : Comparison)

/-- Why the comparison cannot be written, if it cannot. -/
def fault? : Option BuildError :=
  if c.value.isNull = true ∧ c.comparer ≠ .eq ∧ c.comparer ≠ .ne then
    some (.nullComparison c.comparer)
  else none

theorem nullTest?_eq_none_iff (comparer : Comparer) :
    comparer.nullTest? = none ↔ comparer ≠ .eq ∧ comparer ≠ .ne := by
  cases comparer <;> decide

theorem sql?_eq_none_iff (naming : Naming) : c.sql? naming = none ↔
    c.value.isNull = true ∧ c.comparer ≠ .eq ∧ c.comparer ≠ .ne := by
  rw [← nullTest?_eq_none_iff]
  unfold sql?
  by_cases hn : c.value.isNull = true
  · rw [if_pos hn, Option.map_eq_none_iff]
    exact (and_iff_right hn).symm
  · rw [if_neg hn]
    exact iff_of_false nofun fun h => hn h.1

end Comparison

/-- The failure, where `values` are bound before all that was bound. -/
def Unwritable.behind (values : List Value) (u : Unwritable) : Unwritable :=
  { u with bound := values ++ u.bound }

namespace Comparison

/-- The first of comparisons that cannot be written, with the values bound before it. -/
def firstFault : List Comparison → Option Unwritable
  | [] => none
  | c :: cs =>
    match c.fault? with
    | some e => some ⟨e, []⟩
    | none => (firstFault cs).map (Unwritable.behind c.bound?.toList)

theorem firstFault_append (cs ds : List Comparison) : firstFault (cs ++ ds) =
    (firstFault cs).or ((firstFault ds).map (Unwritable.behind (cs.filterMap bound?))) := by
  induction cs with
  | nil =>
    rw [List.nil_append]
    cases firstFault ds <;> rfl
  | cons c cs ih =>
    rw [List.cons_append, firstFault, firstFault, ih]
    cases c.fault? with
    | some e => rfl
    | none =>
      cases firstFault cs with
      | some u => rfl
      | none => cases firstFault ds <;> cases h : c.bound? <;> simp [Unwritable.behind, h]

theorem cause_firstFault (cs : List Comparison) :
    (firstFault cs).map Unwritable.cause = (cs.filterMap fault?).head? := by
  induction cs with
  | nil => rfl
  | cons c cs ih =>
    rw [firstFault]
    cases h : c.fault? with
    | some e => rw [List.filterMap_cons_some h]; rfl
    | none =>
      rw [List.filterMap_cons_none h, ← ih, Option.map_map]
      rfl

theorem firstFault_eq_none_iff {cs : List Comparison} :
    firstFault cs = none ↔ ∀ c ∈ cs, c.fault? = none := by
  rw [← List.filterMap_eq_nil_iff, ← List.head?_eq_none_iff, ← cause_firstFault,
    Option.map_eq_none_iff]

/-- Only comparisons that can be written stand before the first that cannot. -/
theorem firstFault_first {before after : List Comparison} {c : Comparison} {e : BuildError}
    (hb : ∀ b ∈ before, b.fault? = none) (hc : c.fault? = some e) :
    firstFault (before ++ c :: after) = some ⟨e, before.filterMap bound?⟩ := by
  rw [firstFault_append, firstFault_eq_none_iff.mpr hb, firstFault, hc]
  simp [Unwritable.behind]

theorem failure?_clause (naming : Naming) (c : Comparison) :
    (c.clause naming).failure? = firstFault [c] := by
  have hs := c.sql?_eq_none_iff naming
  unfold clause firstFault fault?
  cases h : c.sql? naming with
  | none => rw [if_pos (hs.mp h)]; rfl
  | some sql => rw [if_neg fun hf => nomatch h.symm.trans (hs.mpr hf)]; rfl

end Comparison

namespace Condition

/-- What keeps conditions that all hold from being written, in the order of the text. -/
def faults (cs : List Condition) : List BuildError :=
  (listComparisons .eq cs).filterMap Comparison.fault?

variable {naming : Naming}

mutual

theorem failure?_clause (op : Connective) (comparer : Comparer) : ∀ c : Condition,
    (clause naming op comparer c).failure? = Comparison.firstFault (comparisons comparer c)
  | .leaf key value => by
    rw [clause_leaf, Comparison.failure?_clause, comparisons]
  | .raw expression value => by
    rw [clause_raw, Comparison.failure?_clause, comparisons]
  | .group (.logical c) children => by
    rw [clause, Except.failure?_map, failure?_clauses c comparer children, comparisons]
  | .group (.compare c) children => by
    rw [clause_compare, failure?_clauses op c children, comparisons]

/-- Conditions fail with the first comparison in them that cannot be written, behind the values of
the comparisons before it. -/
theorem failure?_clauses (op : Connective) (comparer : Comparer) : ∀ cs : List Condition,
    (clauses naming op comparer cs).failure? = Comparison.firstFault (listComparisons comparer cs)
  | [] => rfl
  | c :: cs => by
    rw [listComparisons, Comparison.firstFault_append, ← failure?_clause op comparer c,
      ← failure?_clauses op comparer cs, clauses]
    cases hl : clause naming op comparer c with
    | error u => rfl
    | ok left =>
      rw [← values_of_clause hl]
      cases clauses naming op comparer cs <;> rfl

end

theorem failure?_rootSql (naming : Naming) (cs : List Condition) :
    (rootSql naming cs).failure?.map Unwritable.cause = (faults cs).head? := by
  unfold rootSql sql faults
  rw [Except.failure?_map, failure?_clauses, Comparison.cause_firstFault]

/-- A null value under a comparer without a test is all that can be wrong with conditions. -/
theorem exists_nullComparison_of_mem_faults {cs : List Condition} {e : BuildError}
    (h : e ∈ faults cs) : ∃ comparer, e = .nullComparison comparer := by
  obtain ⟨c, -, hc⟩ := List.mem_filterMap.mp h
  unfold Comparison.fault? at hc
  split at hc
  · exact ⟨c.comparer, (Option.some.inj hc).symm⟩
  · cases hc

end Condition

end SqlCompose
