import SqlCompose.Proofs.Condition.NullTest

/-!
# Conditions one behind the other

Expressions are joined by the operator in force, and those that are empty leave no trace, so it does
not matter how conditions in a row are grouped for writing (`sequence_assoc`). A list of conditions
is therefore written as its parts are, one behind the other (`clauses_append`).
-/

namespace SqlCompose

namespace ClauseToken

/-- Expressions under one operator may be joined in any grouping. -/
theorem connect_assoc (c : Connective) (ts us vs : List ClauseToken) :
    connect c (connect c ts us) vs = connect c ts (connect c us vs) := by
  cases ts with
  | nil => rfl
  | cons t ts =>
    cases us with
    | nil => rw [connect_nil]; rfl
    | cons u us =>
      cases vs with
      | nil => rw [connect_nil, connect_nil]
      | cons v vs =>
        rw [connect_cons, connect_cons, List.cons_append, List.cons_append, connect_cons,
          connect_cons]
        simp

theorem values_connect (c : Connective) (ts us : List ClauseToken) :
    (sqlOf (connect c ts us)).values = (sqlOf ts).values ++ (sqlOf us).values := by
  rw [values_sqlOf, values_sqlOf, values_sqlOf, comparisons_connect, List.flatMap_append]

end ClauseToken

theorem Unwritable.behind_behind (vs ws : List Value) (u : Unwritable) :
    (u.behind ws).behind vs = u.behind (vs ++ ws) := by
  unfold behind
  rw [List.append_assoc]

namespace Condition

/-- Two expressions one behind the other, joined by an operator. Where the second cannot be written,
the values of the first stay bound. -/
def sequence (op : Connective) (x y : Except Unwritable (List ClauseToken)) :
    Except Unwritable (List ClauseToken) :=
  match x with
  | .error u => .error u
  | .ok left =>
    match y with
    | .error u => .error (u.behind (ClauseToken.sqlOf left).values)
    | .ok right => .ok (ClauseToken.connect op left right)

variable {naming : Naming} {op : Connective} {comparer : Comparer}

theorem clauses_cons (c : Condition) (cs : List Condition) :
    clauses naming op comparer (c :: cs) =
      sequence op (clause naming op comparer c) (clauses naming op comparer cs) := by
  rw [clauses]
  rfl

theorem sequence_assoc (op : Connective) (x y z : Except Unwritable (List ClauseToken)) :
    sequence op (sequence op x y) z = sequence op x (sequence op y z) := by
  cases x with
  | error u => rfl
  | ok left =>
    cases y with
    | error u => rfl
    | ok middle =>
      cases z with
      | error u =>
        show Except.error (u.behind _) = Except.error ((u.behind _).behind _)
        rw [ClauseToken.values_connect, Unwritable.behind_behind]
      | ok right =>
        show Except.ok _ = Except.ok _
        rw [ClauseToken.connect_assoc]

/-- Conditions behind others are written behind them, and the first failure of the two counts. -/
theorem clauses_append (cs ds : List Condition) :
    clauses naming op comparer (cs ++ ds) =
      sequence op (clauses naming op comparer cs) (clauses naming op comparer ds) := by
  induction cs with
  | nil =>
    rw [List.nil_append, clauses]
    cases clauses naming op comparer ds <;> rfl
  | cons c cs ih => rw [List.cons_append, clauses_cons, clauses_cons, ih, sequence_assoc]

end Condition

end SqlCompose
