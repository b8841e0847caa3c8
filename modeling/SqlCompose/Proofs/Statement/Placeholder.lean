import SqlCompose.Proofs.Condition.Meaning
import SqlCompose.Proofs.Sql.Placeholder
import SqlCompose.Proofs.Statement.BoundValues
import SqlCompose.Proofs.Statement.DollarFree

/-!
# The placeholders of a statement

Every clause of a statement without dollar signs is numbered SQL, and so is the statement: its
placeholders are `1`, `2` and so on, and the parameters are the values that it binds, in order
(`Statement.placeholders_of_compile`).
-/

namespace SqlCompose

open Sql Text

/-! ## Conditions -/

namespace ClauseToken

theorem isSeparator_keyword (c : Connective) : IsSeparator (" " ++ c.keyword ++ " ") := by
  cases c <;> decide

theorem numbered_connective (c : Connective) {ts us : List ClauseToken} (ht : Numbered (sqlOf ts))
    (hu : Numbered (sqlOf us)) : Numbered (sqlOf (ts ++ .connective c :: us)) := by
  rw [sqlOf_append]
  exact ht.behind (isSeparator_keyword c) hu

/-- Parentheses end the last number of what they enclose. -/
theorem numbered_parenthesized {ts : List ClauseToken} (h : Numbered (sqlOf ts)) :
    Numbered (sqlOf (.opening :: ts ++ [.closing])) := by
  have hc : Numbered (sqlOf ts ++ .text ")" :: []) := h.behind (by decide) numbered_nil
  have he : sqlOf (.opening :: ts ++ [.closing]) = .text "(" :: (sqlOf ts ++ .text ")" :: []) := by
    rw [List.cons_append]
    exact congrArg (Piece.text "(" :: ·) (sqlOf_append ts [.closing])
  rw [he]
  exact hc.textBehind (by decide)

/-- An expression is numbered where its comparisons are. -/
theorem numbered_of_derives {r : Rank} {ts : List ClauseToken} {f : Formula Sql}
    (h : Derives r ts f) (hs : ∀ s ∈ comparisons ts, Numbered s) : Numbered (sqlOf ts) := by
  induction h with
  | comparison s =>
    have hn : sqlOf [.comparison s] = s := List.append_nil s
    rw [hn]
    exact hs s List.mem_cons_self
  | @parenthesized ts f _ ih =>
    have hc : comparisons (.opening :: ts ++ [.closing]) = comparisons ts := by
      simp [comparisons]
    exact numbered_parenthesized (ih fun s hm => hs s (hc ▸ hm))
  | operand _ ih => exact ih hs
  | and _ _ ihl ihr =>
    simp only [comparisons_append, comparisons, List.mem_append] at hs
    exact numbered_connective .and (ihl fun s hm => hs s (.inl hm)) (ihr fun s hm => hs s (.inr hm))
  | conjunction _ ih => exact ih hs
  | or _ _ ihl ihr =>
    simp only [comparisons_append, comparisons, List.mem_append] at hs
    exact numbered_connective .or (ihl fun s hm => hs s (.inl hm)) (ihr fun s hm => hs s (.inr hm))

end ClauseToken

theorem Comparison.numbered_of_sql? {naming : Naming} {c : Comparison} {x : Sql}
    (h : c.sql? naming = some x) (hc : c.DollarFree) : Numbered x := by
  have hl : Text.DollarFree (c.left naming) := by
    unfold left
    split
    · exact hc.key
    · exact Condition.dollarFree_column naming hc.key
  unfold sql? at h
  split at h
  · obtain ⟨test, ht, rfl⟩ := Option.map_eq_some_iff.mp h
    have hd : Text.DollarFree test := by
      cases hcm : c.comparer <;> rw [hcm] at ht <;> cases ht <;> decide
    refine numbered_text ?_
    simp only [dollarFree_append]
    exact ⟨⟨hl, by decide⟩, hd⟩
  · cases h
    refine Numbered.textBehind ?_ ?_
    · have hs : Text.DollarFree c.comparer.symbol := by cases c.comparer <;> decide
      simp only [dollarFree_append]
      exact ⟨⟨⟨hl, by decide⟩, hs⟩, by decide⟩
    · unfold right
      split
      · rename_i hp
        exact numbered_text (Value.dollarFree_literal (hc.value hp) naming)
      · exact numbered_bind c.value

/-- An expression of conditions without dollar signs is numbered. -/
theorem Condition.numbered_of_clauses {naming : Naming} {op : Connective} {comparer : Comparer}
    {cs : List Condition} {tokens : List ClauseToken}
    (h : clauses naming op comparer cs = .ok tokens)
    (hc : ∀ c ∈ listComparisons comparer cs, c.DollarFree) :
    Numbered (ClauseToken.sqlOf tokens) := by
  have hr := reads_clauses h
  have hm := listComparisons_of_clauses h
  cases hf : listFormula op comparer cs with
  | none =>
    rw [hf] at hr
    obtain rfl : tokens = [] := hr
    exact numbered_nil
  | some r =>
    rw [hf] at hr
    obtain ⟨f, hd, -⟩ := hr
    refine ClauseToken.numbered_of_derives hd fun s hs => ?_
    have hs' : some s ∈ (listComparisons comparer cs).map (Comparison.sql? naming) := by
      rw [hm]
      exact List.mem_map_of_mem hs
    obtain ⟨c, hcm, hcs⟩ := List.mem_map.mp hs'
    exact Comparison.numbered_of_sql? hcs (hc c hcm)

/-! ## Clauses -/

namespace Join

variable {config : Config} {ownTable : String}

theorem numbered_of_conditionsSql {naming : Naming} {cs : List Condition} {x : Sql}
    (h : conditionsSql naming cs = .ok x) (hc : Condition.DollarFree cs) : Numbered x := by
  obtain ⟨tokens, ht, rfl⟩ := conditionsSql_ok h
  split
  · exact numbered_text (by decide)
  · exact Condition.numbered_of_clauses ht hc

theorem numbered_of_sql {j : Join} {x : Sql} (h : sql config ownTable j = .ok x)
    (hp : Text.DollarFree config.primaryKey) (ho : Text.DollarFree ownTable) (hj : j.DollarFree) :
    Numbered x := by
  have ht : Text.DollarFree (config.naming.bareName j.table) := hj.table.bareName _
  have hon := hj.on
  have hr : Text.DollarFree j.required.keyword := by cases j.required <;> decide
  have hk : Text.DollarFree
      (j.required.keyword ++ " " ++ config.naming.bareName j.table ++ " ON ") := by
    simp only [dollarFree_append]
    exact ⟨⟨⟨hr, by decide⟩, ht⟩, by decide⟩
  rcases sql_ok h with ⟨-, rfl⟩ | ⟨cs, y, hcs, hy, rfl⟩ | ⟨own, joined, hks, rfl⟩
  · refine numbered_text ?_
    rw [dollarFree_append]
    exact ⟨by decide, ht⟩
  · rw [hcs] at hon
    exact (numbered_of_conditionsSql hy hon).textBehind hk
  · rw [hks] at hon
    exact (numbered_text (dollarFree_keysText hp ho ht hon)).textBehind hk

theorem numbered_of_listSql {joins : List Join} {x : Sql}
    (h : listSql config ownTable joins = .ok x) (hp : Text.DollarFree config.primaryKey)
    (ho : Text.DollarFree ownTable) (hj : ∀ j ∈ joins, j.DollarFree) : Numbered x := by
  obtain ⟨ys, hys, rfl⟩ := listSql_ok h
  refine Numbered.joined (by decide) fun y hy => ?_
  have hm : Except.ok y ∈ joins.map (sql config ownTable) := by
    rw [hys]
    exact List.mem_map_of_mem hy
  obtain ⟨j, hjm, hjy⟩ := List.mem_map.mp hm
  exact numbered_of_sql hjy hp ho (hj j hjm)

end Join

namespace Statement

variable {naming : Naming}

theorem numbered_of_whereSql {cs : List Condition} {x : Sql} (h : whereSql naming cs = .ok x)
    (hc : Condition.DollarFree cs) : Numbered x := by
  obtain ⟨tokens, ht, rfl⟩ := whereSql_ok h
  split
  · exact numbered_nil
  · exact (Condition.numbered_of_clauses ht hc).textBehind (by decide)

theorem numbered_assignedSql {a : Assigned} (h : a.DollarFree) : Numbered (assignedSql a) := by
  cases a with
  | null => exact numbered_text (by decide)
  | raw sql => exact numbered_text h
  | bind v => exact numbered_bind v

theorem numbered_setSql {as : List Assignment} (h : ∀ a ∈ as, a.DollarFree) :
    Numbered (setSql naming as) := by
  refine (Numbered.joined (by decide) fun part hp => ?_).textBehind (by decide)
  obtain ⟨a, ha, rfl⟩ := List.mem_map.mp hp
  refine (numbered_assignedSql (h a ha).value).textBehind ?_
  rw [dollarFree_append]
  exact ⟨(h a ha).column.quotedName naming, by decide⟩

theorem numbered_valuesSql {as : List Assignment} (h : ∀ a ∈ as, a.DollarFree) :
    Numbered (valuesSql naming as) := by
  unfold valuesSql
  split
  · exact numbered_text (by decide)
  · have hv : Numbered (Sql.joined ", " (as.map fun a => assignedSql a.value)) := by
      refine Numbered.joined (by decide) fun part hp => ?_
      obtain ⟨a, ha, rfl⟩ := List.mem_map.mp hp
      exact numbered_assignedSql (h a ha).value
    have hn : Text.DollarFree (", ".intercalate (as.map fun a => naming.quotedName a.column)) := by
      refine Text.DollarFree.intercalate (by decide) fun part hp => ?_
      obtain ⟨a, ha, rfl⟩ := List.mem_map.mp hp
      exact (h a ha).column.quotedName naming
    refine (hv.textBehind ?_).behind (by decide) numbered_nil
    simp only [dollarFree_append]
    exact ⟨⟨by decide, hn⟩, by decide⟩

theorem numbered_of_conflictSql {c : Option Conflict} {x : Sql} (h : conflictSql naming c = .ok x)
    (hc : ∀ k ∈ c, k.DollarFree) : Numbered x := by
  rcases conflictSql_ok h with ⟨rfl, rfl⟩ | ⟨keys, rfl, rfl⟩ | ⟨keys, as, rfl, -, rfl⟩
  · exact numbered_nil
  · refine numbered_text ?_
    simp only [dollarFree_append]
    exact ⟨⟨by decide, dollarFree_targetText naming (hc _ rfl).keys⟩, by decide⟩
  · refine (numbered_setSql (hc _ rfl).assignments).textBehind ?_
    simp only [dollarFree_append]
    exact ⟨⟨by decide, dollarFree_targetText naming (hc _ rfl).keys⟩, by decide⟩

/-! ## Statements -/

variable {config : Config} {s : Statement} (hs : s.DollarFree)

include hs

theorem numbered_selectParts {joins filter : Sql} (hj : Numbered joins) (hf : Numbered filter) :
    AllNumbered (s.selectParts config joins filter) := by
  have hg : Numbered
      ((s.groupBy.map fun key => Sql.text (groupText config.naming key)).getD []) := by
    cases hk : s.groupBy with
    | none => exact numbered_nil
    | some key => exact numbered_text (dollarFree_groupText _ (hs.groupBy key hk))
  unfold selectParts
  exact ⟨numbered_text (by decide), numbered_text (dollarFree_keysText _ hs.keys _),
    numbered_text (by decide), numbered_text (hs.table.bareName _), hj, hf, hg,
    numbered_text (dollarFree_sortingText _ hs.sorting), numbered_text (dollarFree_offsetText _),
    numbered_text (dollarFree_limitText _), trivial⟩

variable (hp : Text.DollarFree config.primaryKey)

include hp

theorem numbered_of_listSql {x : Sql}
    (h : Join.listSql config (config.naming.bareName s.table) s.joins = .ok x) : Numbered x :=
  Join.numbered_of_listSql h hp (hs.table.bareName _) hs.joins

theorem numbered_of_parts {ps : List Sql} (h : s.parts config = .ok ps) :
    AllNumbered ps := by
  have ht : Numbered (Sql.text (config.naming.bareName s.table)) :=
    numbered_text (hs.table.bareName _)
  have hk : Numbered (Sql.text (keysText config.naming s.keys false)) :=
    numbered_text (dollarFree_keysText _ hs.keys _)
  have ha := hs.assignments
  cases hc : s.command with
  | select =>
    obtain ⟨joins, filter, hj, hf, rfl⟩ := parts_select_ok hc h
    exact numbered_selectParts hs (numbered_of_listSql hs hp hj)
      (numbered_of_whereSql hf hs.conditions)
  | update as =>
    rw [hc] at ha
    obtain ⟨-, filter, hf, rfl⟩ := parts_update_ok hc h
    exact ⟨numbered_text (by decide), ht, numbered_setSql ha,
      numbered_of_whereSql hf hs.conditions, numbered_text (by decide), hk, trivial⟩
  | insert as =>
    rw [hc] at ha
    obtain ⟨conflict, hx, rfl⟩ := parts_insert_ok hc h
    exact ⟨numbered_text (by decide), ht, numbered_valuesSql ha,
      numbered_of_conflictSql hx hs.conflict, numbered_text (by decide), hk, trivial⟩
  | delete =>
    obtain ⟨filter, hf, rfl⟩ := parts_delete_ok hc h
    exact ⟨numbered_text (by decide), ht, numbered_of_whereSql hf hs.conditions, trivial⟩

theorem numbered_of_sql {x : Sql} (h : s.sql config = .ok x) : Numbered x := by
  obtain ⟨ps, hps, rfl⟩ := sql_ok h
  exact (numbered_of_parts hs hp hps).spaced

theorem numbered_of_countSql {x : Sql} (h : s.countSql config = .ok x) : Numbered x := by
  obtain ⟨joins, filter, hj, hf, rfl⟩ := countSql_ok h
  have hjn := numbered_of_listSql hs hp hj
  have hfn := numbered_of_whereSql hf hs.conditions
  have ht : Numbered (Sql.text (config.naming.bareName s.table)) :=
    numbered_text (hs.table.bareName _)
  unfold countAround
  cases hg : s.groupBy with
  | none =>
    exact AllNumbered.spaced ⟨numbered_text (by decide), ht, hjn, hfn, trivial⟩
  | some key =>
    have hgn := numbered_text (dollarFree_groupText config.naming (hs.groupBy key hg))
    have hrows : AllNumbered [Sql.text "SELECT 1 FROM", Sql.text (config.naming.bareName s.table),
        joins, filter, Sql.text (groupText config.naming key)] :=
      ⟨numbered_text (by decide), ht, hjn, hfn, hgn, trivial⟩
    exact (hrows.spaced.textBehind (by decide)).behind (by decide) numbered_nil

/-- In a statement without dollar signs of its own the placeholders are `1`, `2` and so on to the
number of parameters, and the parameters are the values that its clauses bind, in order. So they are
in the count of its rows, which binds those of the joins and of the filter. -/
theorem placeholders_of_compile :
    (∀ q, s.compile config = .ok q →
      placeholders q.sql.toList = List.range' 1 q.params.length ∧ q.params = s.boundValues) ∧
    ∀ q, s.compileCount config = .ok q →
      placeholders q.sql.toList = List.range' 1 q.params.length ∧ q.params = s.sourceValues := by
  constructor
  · intro q h
    obtain ⟨x, hx, rfl⟩ := map_eq_ok h
    rw [← values_of_sql hx]
    exact (numbered_of_sql hs hp hx).toQuery
  · intro q h
    obtain ⟨x, hx, rfl⟩ := map_eq_ok h
    rw [← values_of_countSql hx]
    exact (numbered_of_countSql hs hp hx).toQuery

omit hs hp

/-- The paid orders of a user. -/
def paidOrders (user : Int64) : Statement where
  table := "orders"
  joins := [⟨"users", .conditions [.leaf "users.id" (.int user)], .both⟩]
  conditions := [.leaf "status" (.text "paid"), .leaf "deletedAt" .null]

theorem placeholders_of_paidOrders :
    Text.DollarFree ({} : Config).primaryKey ∧ (paidOrders 7).DollarFree ∧
      ∃ q, (paidOrders 7).compile {} = .ok q ∧
        q.sql = "SELECT * FROM orders INNER JOIN users ON users.id = $1 " ++
          "WHERE \"status\" = $2 AND \"deleted_at\" IS NULL" ∧
        placeholders q.sql.toList = [1, 2] ∧ q.params = [.int 7, .text "paid"] := by
  have hp : Text.DollarFree ({} : Config).primaryKey := by decide
  have hs : (paidOrders 7).DollarFree := by
    have hn {α : Type} {P : α → Prop} : ∀ a ∈ ([] : List α), P a :=
      fun a ha => absurd ha List.not_mem_nil
    refine ⟨by decide, hn, hn, ?_, ?_, hn, nofun, nofun⟩
    · intro c hc
      rcases List.mem_cons.mp hc with rfl | hc
      · exact ⟨by decide, nofun⟩
      · obtain rfl := List.mem_singleton.mp hc
        exact ⟨by decide, nofun⟩
    · intro j hj
      obtain rfl := List.mem_singleton.mp hj
      refine ⟨by decide, fun c hc => ?_⟩
      obtain rfl := List.mem_singleton.mp hc
      exact ⟨by decide, nofun⟩
  have hq : (paidOrders 7).compile {} = .ok ⟨
      "SELECT * FROM orders INNER JOIN users ON users.id = $1 " ++
        "WHERE \"status\" = $2 AND \"deleted_at\" IS NULL", [.int 7, .text "paid"]⟩ := by rfl
  obtain ⟨hn, hv⟩ := (placeholders_of_compile hs hp).1 _ hq
  exact ⟨hp, hs, _, hq, rfl, hn.trans rfl, hv⟩

end Statement

end SqlCompose
