import SqlCompose.Condition.Clause

/-!
# The comparisons in conditions

Conditions are a tree whose leaves compare. Down the tree a comparison group replaces the comparer
in force and a logical group keeps it, so each leaf has one comparer: `listComparisons` lists them
in the order of the text. An expression holds the SQL of exactly these
(`listComparisons_of_clauses`) and binds exactly their values (`values_of_clauses`).
-/

namespace SqlCompose

/-- A leaf of conditions under the comparer in force. -/
structure Comparison where
  comparer : Comparer
  /-- Is the left side SQL and the value written in place? -/
  inPlace : Bool
  /-- The key of a column, or the SQL. -/
  key : String
  value : Value

namespace Comparison

variable (naming : Naming) (c : Comparison)

/-- The left side. -/
def left : String := if c.inPlace then c.key else Condition.column naming c.key

/-- The right side, where the value is not null. -/
def right : Sql := if c.inPlace then Sql.text (c.value.literal naming) else Sql.bind c.value

/-- The SQL, if there is one: a null value needs a comparer with a test for null. -/
def sql? : Option Sql :=
  if c.value.isNull then
    c.comparer.nullTest?.map fun test => Sql.text (c.left naming ++ " " ++ test)
  else some (Sql.text (c.left naming ++ " " ++ c.comparer.symbol ++ " ") ++ c.right naming)

/-- The value that is bound, if one is. -/
def bound? : Option Value := if c.inPlace || c.value.isNull then none else some c.value

/-- The expression of a comparison on its own. -/
def clause : Except Unwritable (List ClauseToken) :=
  match c.sql? naming with
  | some sql => .ok [.comparison sql]
  | none => .error ⟨.nullComparison c.comparer, []⟩

variable {naming c}

theorem clause_ok {tokens : List ClauseToken} (h : c.clause naming = .ok tokens) :
    ∃ sql, c.sql? naming = some sql ∧ tokens = [.comparison sql] := by
  unfold clause at h
  split at h
  · rename_i sql hs
    cases h
    exact ⟨sql, hs, rfl⟩
  · cases h

/-- A comparison binds its value, or nothing. -/
theorem values_of_sql? {sql : Sql} (h : c.sql? naming = some sql) :
    sql.values = c.bound?.toList := by
  unfold sql? at h
  unfold bound?
  split at h
  · rename_i hn
    obtain ⟨test, -, rfl⟩ := Option.map_eq_some_iff.mp h
    simp [hn, Sql.text, Sql.values]
  · rename_i hn
    cases h
    cases hp : c.inPlace <;> simp [right, hn, hp, Sql.text, Sql.bind, Sql.values]

end Comparison

namespace Condition

mutual

/-- The comparisons in a condition, in order, where `comparer` is in force. -/
def comparisons (comparer : Comparer) : Condition → List Comparison
  | .leaf key value => [⟨comparer, false, key, value⟩]
  | .raw expression value => [⟨comparer, true, expression, value⟩]
  | .group (.logical _) children => listComparisons comparer children
  | .group (.compare c) children => listComparisons c children

/-- The comparisons in conditions, in order, where `comparer` is in force. -/
def listComparisons (comparer : Comparer) : List Condition → List Comparison
  | [] => []
  | c :: cs => comparisons comparer c ++ listComparisons comparer cs

end

/-- The values that conditions bind, in order. -/
def boundValues (cs : List Condition) : List Value :=
  (listComparisons .eq cs).filterMap Comparison.bound?

variable {naming : Naming} {op : Connective} {comparer : Comparer}

theorem clause_leaf (key : String) (value : Value) :
    clause naming op comparer (.leaf key value) =
      Comparison.clause naming ⟨comparer, false, key, value⟩ := by
  cases hv : value.isNull
  · simp [clause, Comparison.clause, Comparison.sql?, Comparison.left, Comparison.right, compared,
      hv]
  · cases hc : comparer.nullTest? <;>
      simp [clause, Comparison.clause, Comparison.sql?, Comparison.left, nullTest, hv, hc]

theorem clause_raw (expression : String) (value : Value) :
    clause naming op comparer (.raw expression value) =
      Comparison.clause naming ⟨comparer, true, expression, value⟩ := by
  cases hv : value.isNull
  · simp [clause, Comparison.clause, Comparison.sql?, Comparison.left, Comparison.right, compared,
      hv]
  · cases hc : comparer.nullTest? <;>
      simp [clause, Comparison.clause, Comparison.sql?, Comparison.left, nullTest, hv, hc]

/-- A logical group is written as its children under its own operator, in parentheses where that is
another one. -/
theorem clause_logical_ok {c : Connective} {children : List Condition} {tokens : List ClauseToken}
    (h : clause naming op comparer (.group (.logical c) children) = .ok tokens) :
    ∃ ts, clauses naming c comparer children = .ok ts ∧
      tokens = if c = op then ts else ClauseToken.parenthesized ts := by
  unfold clause at h
  cases hc : clauses naming c comparer children with
  | error u => simp [hc, Except.map] at h
  | ok ts =>
    simp only [hc, Except.map, Except.ok.injEq] at h
    exact ⟨ts, rfl, h.symm⟩

theorem clause_compare (c : Comparer) (children : List Condition) :
    clause naming op comparer (.group (.compare c) children) = clauses naming op c children := by
  rw [clause]

/-- Conditions are written one behind the other, and all of them have to be. -/
theorem clauses_cons_ok {c : Condition} {cs : List Condition} {tokens : List ClauseToken}
    (h : clauses naming op comparer (c :: cs) = .ok tokens) :
    ∃ left right, clause naming op comparer c = .ok left ∧
      clauses naming op comparer cs = .ok right ∧ tokens = ClauseToken.connect op left right := by
  unfold clauses at h
  cases hl : clause naming op comparer c with
  | error u => simp [hl] at h
  | ok left =>
    cases hr : clauses naming op comparer cs with
    | error u => simp [hl, hr] at h
    | ok right =>
      simp only [hl, hr, Except.ok.injEq] at h
      exact ⟨left, right, rfl, rfl, h.symm⟩

end Condition

namespace ClauseToken

/-- The comparisons among tokens. -/
def comparisons : List ClauseToken → List Sql
  | [] => []
  | .comparison s :: tokens => s :: comparisons tokens
  | _ :: tokens => comparisons tokens

@[simp] theorem comparisons_append (ts us : List ClauseToken) :
    comparisons (ts ++ us) = comparisons ts ++ comparisons us := by
  induction ts with
  | nil => rfl
  | cons t ts ih => cases t <;> simp [comparisons, ih]

theorem connect_cons (c : Connective) (t u : ClauseToken) (ts us : List ClauseToken) :
    connect c (t :: ts) (u :: us) = (t :: ts) ++ connective c :: u :: us := rfl

@[simp] theorem connect_nil (c : Connective) (ts : List ClauseToken) : connect c ts [] = ts := by
  cases ts <;> rfl

@[simp] theorem comparisons_connect (c : Connective) (ts us : List ClauseToken) :
    comparisons (connect c ts us) = comparisons ts ++ comparisons us := by
  cases ts with
  | nil => rfl
  | cons t ts =>
    cases us with
    | nil => simp [comparisons]
    | cons u us =>
      rw [connect_cons, comparisons_append]
      rfl

@[simp] theorem comparisons_parenthesized (ts : List ClauseToken) :
    comparisons (parenthesized ts) = comparisons ts := by
  cases ts with
  | nil => rfl
  | cons t ts =>
    show comparisons ((t :: ts) ++ [closing]) = comparisons (t :: ts)
    rw [comparisons_append]
    simp [comparisons]

theorem sqlOf_append (ts us : List ClauseToken) : sqlOf (ts ++ us) = sqlOf ts ++ sqlOf us :=
  List.flatMap_append

/-- Only comparisons bind values. -/
theorem values_sqlOf (ts : List ClauseToken) :
    (sqlOf ts).values = (comparisons ts).flatMap Sql.values := by
  induction ts with
  | nil => rfl
  | cons t ts ih =>
    unfold sqlOf at ih ⊢
    rw [List.flatMap_cons, Sql.values_append, ih]
    cases t <;> simp [sql, comparisons, Sql.text, Sql.values]

end ClauseToken

namespace Condition

variable {naming : Naming} {op : Connective} {comparer : Comparer}

mutual

theorem comparisons_of_clause {op : Connective} {comparer : Comparer} :
    ∀ {c : Condition} {tokens : List ClauseToken}, clause naming op comparer c = .ok tokens →
      (comparisons comparer c).map (Comparison.sql? naming) =
        (ClauseToken.comparisons tokens).map some
  | .leaf key value, tokens, h => by
    rw [clause_leaf] at h
    obtain ⟨sql, hs, rfl⟩ := Comparison.clause_ok h
    simp [comparisons, ClauseToken.comparisons, hs]
  | .raw expression value, tokens, h => by
    rw [clause_raw] at h
    obtain ⟨sql, hs, rfl⟩ := Comparison.clause_ok h
    simp [comparisons, ClauseToken.comparisons, hs]
  | .group (.logical c) children, tokens, h => by
    obtain ⟨ts, hts, rfl⟩ := clause_logical_ok h
    rw [comparisons, listComparisons_of_clauses hts]
    split <;> simp
  | .group (.compare c) children, tokens, h => by
    rw [clause_compare] at h
    rw [comparisons, listComparisons_of_clauses h]

/-- An expression holds the SQL of the comparisons in its conditions, each once and in order. -/
theorem listComparisons_of_clauses {op : Connective} {comparer : Comparer} :
    ∀ {cs : List Condition} {tokens : List ClauseToken},
      clauses naming op comparer cs = .ok tokens →
      (listComparisons comparer cs).map (Comparison.sql? naming) =
        (ClauseToken.comparisons tokens).map some
  | [], tokens, h => by
    cases h
    rfl
  | c :: cs, tokens, h => by
    obtain ⟨left, right, hl, hr, rfl⟩ := clauses_cons_ok h
    rw [listComparisons, List.map_append, comparisons_of_clause hl, listComparisons_of_clauses hr]
    simp

end

/-- An expression binds the values of the comparisons in its conditions. -/
theorem values_of_clauses {cs : List Condition} {tokens : List ClauseToken}
    (h : clauses naming op comparer cs = .ok tokens) :
    (ClauseToken.sqlOf tokens).values =
      (listComparisons comparer cs).filterMap Comparison.bound? := by
  rw [ClauseToken.values_sqlOf]
  have hm := listComparisons_of_clauses h
  generalize listComparisons comparer cs = xs at hm
  generalize ClauseToken.comparisons tokens = ss at hm
  induction xs generalizing ss with
  | nil =>
    cases ss with
    | nil => rfl
    | cons s ss => cases hm
  | cons x xs ih =>
    cases ss with
    | nil => cases hm
    | cons s ss =>
      obtain ⟨hx, hxs⟩ := List.cons.inj hm
      rw [List.flatMap_cons, Comparison.values_of_sql? hx, ih _ hxs]
      cases hb : x.bound? <;> simp [hb]

theorem values_of_clause {c : Condition} {tokens : List ClauseToken}
    (h : clause naming op comparer c = .ok tokens) :
    (ClauseToken.sqlOf tokens).values = (comparisons comparer c).filterMap Comparison.bound? := by
  have hc : clauses naming op comparer [c] = .ok tokens := by
    simp only [clauses, h, ClauseToken.connect_nil]
  have hv := values_of_clauses hc
  rwa [listComparisons, listComparisons, List.append_nil] at hv

end Condition

end SqlCompose
