import Mathlib.Logic.Relation
import SqlCompose.Proofs.Condition.Sequence

/-!
# Redundant groups

A group is redundant where its modifier is in force already: a logical group of the operator that
joins its siblings, or a comparison group of their comparer. `Opens` puts the children of one such
group in its place, wherever it stands. Nothing that is written changes, and no failure
(`renderBehind_sql_of_opens`).
-/

namespace SqlCompose.Condition

/-- The second conditions are the first where, at some depth, a group whose modifier is in force
there gave way to its children. -/
inductive Opens : Connective → Comparer → List Condition → List Condition → Prop
  /-- A logical group of the operator in force. -/
  | logical {op : Connective} {comparer : Comparer} (children rest : List Condition) :
      Opens op comparer (.group (.logical op) children :: rest) (children ++ rest)
  /-- A comparison group of the comparer in force. -/
  | compare {op : Connective} {comparer : Comparer} (children rest : List Condition) :
      Opens op comparer (.group (.compare comparer) children :: rest) (children ++ rest)
  /-- A group inside of a logical group, which puts its operator in force. -/
  | inLogical {op c : Connective} {comparer : Comparer} {cs ds : List Condition}
      (h : Opens c comparer cs ds) (rest : List Condition) :
      Opens op comparer (.group (.logical c) cs :: rest) (.group (.logical c) ds :: rest)
  /-- A group inside of a comparison group, which puts its comparer in force. -/
  | inCompare {op : Connective} {comparer c : Comparer} {cs ds : List Condition}
      (h : Opens op c cs ds) (rest : List Condition) :
      Opens op comparer (.group (.compare c) cs :: rest) (.group (.compare c) ds :: rest)
  /-- A group further behind. -/
  | behind {op : Connective} {comparer : Comparer} {cs ds : List Condition} (first : Condition)
      (h : Opens op comparer cs ds) : Opens op comparer (first :: cs) (first :: ds)

variable {naming : Naming} {op : Connective} {comparer : Comparer} {cs ds : List Condition}

/-- A logical group of the operator in force is written as its children. -/
theorem clause_logical_self (children : List Condition) :
    clause naming op comparer (.group (.logical op) children) =
      clauses naming op comparer children := by
  rw [clause]
  simp only [if_true]
  cases clauses naming op comparer children <;> rfl

theorem clause_logical_congr {c : Connective}
    (h : clauses naming c comparer cs = clauses naming c comparer ds) :
    clause naming op comparer (.group (.logical c) cs) =
      clause naming op comparer (.group (.logical c) ds) := by
  rw [clause, clause, h]

/-- Opening one redundant group keeps the expression, or the failure and what is bound before it. -/
theorem clauses_of_opens (h : Opens op comparer cs ds) :
    clauses naming op comparer cs = clauses naming op comparer ds := by
  induction h with
  | logical children rest => rw [clauses_cons, clause_logical_self, clauses_append]
  | compare children rest => rw [clauses_cons, clause_compare, clauses_append]
  | inLogical _ rest ih => rw [clauses_cons, clauses_cons, clause_logical_congr ih]
  | inCompare _ rest ih => rw [clauses_cons, clauses_cons, clause_compare, clause_compare, ih]
  | behind first _ ih => rw [clauses_cons, clauses_cons, ih]

theorem clauses_of_reflTransGen_opens (h : Relation.ReflTransGen (Opens op comparer) cs ds) :
    clauses naming op comparer cs = clauses naming op comparer ds := by
  induction h with
  | refl => rfl
  | tail _ hs ih => exact ih.trans (clauses_of_opens hs)

/-- Redundant groups make no difference. However many of them give way to their children, the
conditions have the same text behind the same parameters, or fail for the same cause, and leave the
same parameters either way. -/
theorem renderBehind_sql_of_opens (naming : Naming) (wrapped : Bool) (p : Params)
    (h : Relation.ReflTransGen (Opens op comparer) cs ds) :
    renderBehind p (sql naming op comparer wrapped cs) =
      renderBehind p (sql naming op comparer wrapped ds) := by
  unfold sql
  rw [clauses_of_reflTransGen_opens h]

/-- Two redundant groups: one of the operator that an alternative puts in force, and in it one of
the comparer around both. -/
def nestedAlternatives (value : Value) : List Condition :=
  [.leaf "a" (.int 1), .group (.logical .or) [.leaf "b" (.int 2),
    .group (.logical .or) [.leaf "c" (.int 3), .group (.compare .ne) [.leaf "d" value]]]]

/-- The same alternatives side by side. -/
def alternatives (value : Value) : List Condition :=
  [.leaf "a" (.int 1), .group (.logical .or) [.leaf "b" (.int 2), .leaf "c" (.int 3),
    .leaf "d" value]]

theorem opens_nestedAlternatives (op : Connective) (value : Value) :
    Relation.ReflTransGen (Opens op .ne) (nestedAlternatives value) (alternatives value) := by
  have houter : Opens op .ne (nestedAlternatives value)
      [.leaf "a" (.int 1), .group (.logical .or) [.leaf "b" (.int 2), .leaf "c" (.int 3),
        .group (.compare .ne) [.leaf "d" value]]] :=
    .behind _ (.inLogical (.behind _ (.logical _ [])) [])
  have hinner : Opens op .ne
      [.leaf "a" (.int 1), .group (.logical .or) [.leaf "b" (.int 2), .leaf "c" (.int 3),
        .group (.compare .ne) [.leaf "d" value]]] (alternatives value) :=
    .behind _ (.inLogical (.behind _ (.behind _ (.compare _ []))) [])
  exact .tail (.single houter) hinner

theorem renderBehind_nestedAlternatives :
    Relation.ReflTransGen (Opens .and .ne) (nestedAlternatives .null) (alternatives .null) ∧
    renderBehind ⟨[.bool true]⟩ (sql ⟨.snake, .camel⟩ .and .ne true (nestedAlternatives .null)) =
      renderBehind ⟨[.bool true]⟩ (sql ⟨.snake, .camel⟩ .and .ne true (alternatives .null)) ∧
    renderBehind ⟨[.bool true]⟩ (sql ⟨.snake, .camel⟩ .and .ne true (alternatives .null)) =
      (.ok "(\"a\" != $2 AND (\"b\" != $3 OR \"c\" != $4 OR \"d\" IS NOT NULL))",
        ⟨[.bool true, .int 1, .int 2, .int 3]⟩) := by
  have h := opens_nestedAlternatives .and .null
  exact ⟨h, renderBehind_sql_of_opens ⟨.snake, .camel⟩ true ⟨[.bool true]⟩ h, by rfl⟩

end SqlCompose.Condition
