import SqlCompose.Proofs.Builder.Field
import SqlCompose.Proofs.Execution.Lookup
import SqlCompose.Proofs.Statement.Text
import SqlCompose.Proofs.Text.Mark

/-!
# Selects that count

A step that counts puts the number of rows in place of the keys of a select and takes the first row.
It keeps the source that the rows are read from, but also the sorting and the offset that were set
before, so the clauses for these stay in the text (`Builder.build_count_iff`). An offset passes over
the only row that a count has, and then a run resolves to nothing.
-/

namespace SqlCompose

namespace Statement

/-- What a count selects: the number of all rows, or of those with a value under the key. -/
def countProjection (naming : Naming) (table key : String) : String :=
  if key = "*" then "count(*) AS count"
  else "count(" ++ naming.bareName table ++ "." ++ naming.bareName key ++ ") AS count"

/-- The text of a select that counts the rows of a source, with clauses in front of its limit. -/
def countingText (config : Config) (s : Statement) (key source : String) (clauses : List String) :
    String :=
  Text.spaced (["SELECT", countProjection config.naming s.table key, "FROM", source,
    s.groupingText config] ++ (clauses ++ ["LIMIT 1"]))

/-- The key of a count is SQL behind a colon. -/
theorem keyText_countKey (naming : Naming) (table key : String) :
    keyText naming (Builder.countKey naming table key) = countProjection naming table key := by
  have hk : Text.afterMark? ':' (Builder.countKey naming table key) =
      some (countProjection naming table key) := by
    rw [Text.afterMark?_eq_some_iff]
    unfold Builder.countKey countProjection
    split <;> simp
  unfold keyText
  rw [hk]

theorem sortingText_eq_empty_iff {naming : Naming} {sorting : List String} :
    sortingText naming sorting = "" ↔ sorting = [] := by
  unfold sortingText
  cases sorting <;> simp

theorem offsetText_eq_empty_iff {offset : Nat} : offsetText offset = "" ↔ offset = 0 := by
  unfold offsetText
  split <;> simp [*]

variable {config : Config} {s : Statement} {key source : String}

theorem countingText_eq_iff {clauses : List String} :
    s.countingText config key source clauses = s.countingText config key source [] ↔
      ∀ t ∈ clauses, t = "" :=
  Text.spaced_append_eq_iff ⟨"LIMIT 1", List.mem_singleton_self _, by decide⟩

end Statement

namespace Builder

open Statement

variable {b : Builder} {key : String} {q : Query}

/-- A count is written with the sorting and the offset that it was given. -/
theorem build_apply_count (hc : b.statement.command = .select)
    (hq : (b.apply (.count key)).build = .ok q) :
    ∃ joins filter,
      Join.listSql b.config (b.config.naming.bareName b.statement.table) b.statement.joins =
        .ok joins ∧
      whereSql b.config.naming b.statement.conditions = .ok filter ∧
      q = ⟨b.statement.countingText b.config key (b.statement.sourceText b.config joins filter)
          [sortingText b.config.naming b.statement.sorting, offsetText b.statement.offset],
        b.statement.sourceValues⟩ := by
  have hs : (b.apply (.count key)).statement.command = .select := hc
  obtain ⟨joins, filter, hj, hf, rfl⟩ := compile_eq_text (build_eq_ok hq)
  refine ⟨joins, filter, hj hs, hf (by rw [hs]; rfl), ?_⟩
  have hk : keysText b.config.naming [countKey b.config.naming b.statement.table key] false =
      countProjection b.config.naming b.statement.table key := by
    rw [← keyText_countKey]
    rfl
  have hw : hasWindowTotal (b.apply (.count key)).statement = false := by
    simp [hasWindowTotal, apply, modify]
  unfold text boundValues
  rw [hs]
  dsimp only
  unfold selectText countingText
  rw [hw, ← hk]
  rfl

/-- A row with a column for the count has the count there. -/
theorem lookup_count {naming : Naming} {r : Row} {v : Json} (h : r.get? "count" = some v) :
    lookup naming r "count" = some v := by
  have hc : columnName "count" = "count" := by decide
  have hf : r.findName? (naming.arrivals "count") = some "count" := by
    unfold Row.findName? Naming.arrivals
    simp [Row.contains, h]
  unfold lookup
  rw [hc, hf, Option.bind_some, h]
  rfl

/-- The text of a select behind steps and a count. It has the keys of a count, the source and the
grouping that the steps left, and takes one row. It also has the sorting and the offset that the
steps set last, so it is the text of a plain count if and only if there are none. A run resolves to
the count in the first row. The one row of a count is skipped with as many rows as the offset says,
so then a run resolves to the count only if there is no offset. -/
theorem build_count_iff (config : Config) (table : String) (steps : List Step) (key : String)
    (hc : (ofSteps config table steps).statement.command = .select)
    (hq : (ofSteps config table (steps ++ [.count key])).build = .ok q) :
    let s := (ofSteps config table steps).statement
    s.sorting = (steps.filterMap Step.sorting?).getLast?.getD [] ∧
    s.offset = (steps.filterMap Step.offset?).getLast?.getD 0 ∧
    (∃ joins filter, Join.listSql config (config.naming.bareName s.table) s.joins = .ok joins ∧
      whereSql config.naming s.conditions = .ok filter ∧
      q = ⟨s.countingText config key (s.sourceText config joins filter)
          [sortingText config.naming s.sorting, offsetText s.offset], s.sourceValues⟩ ∧
      (q.sql = s.countingText config key (s.sourceText config joins filter) [] ↔
        s.sorting = [] ∧ s.offset = 0)) ∧
    (∀ e r rows v, e 0 q = .ok (r :: rows) → r.get? "count" = some v →
      (ofSteps config table (steps ++ [.count key])).ResolvesTo e (some v)) ∧
    ∀ e r v, e 0 q = .ok (([r].drop s.offset).take 1) → r.get? "count" = some v →
      (ofSteps config table (steps ++ [.count key])).ResolvesTo e
        (if s.offset = 0 then some v else none) := by
  intro s
  have hb : ofSteps config table (steps ++ [.count key]) =
      (ofSteps config table steps).apply (.count key) := applyAll_append _ steps [.count key]
  have hg : (ofSteps config table steps).config = config := config_applyAll _ steps
  have hn : (ofSteps config table steps).fault = none := by
    have hf := fault_eq_none_of_build hq
    rwa [hb] at hf
  have hr {e : Executor} {rows : List Row} (he : e 0 q = .ok rows) :
      (ofSteps config table (steps ++ [.count key])).ResolvesTo e
        (rows.head?.bind fun r => lookup config.naming r "count") := by
    have hf : (ofSteps config table (steps ++ [.count key])).statement.first =
        some (.value "count") := by
      rw [hb]
      rfl
    have hl := resolvesTo_rows hf hq he
    rwa [show (ofSteps config table (steps ++ [.count key])).config = config from
      config_applyAll _ _] at hl
  refine ⟨?_, ?_, ?_, ?_, ?_⟩
  · exact field_applyAll (fun b step _ => sorting_apply b step) hn
  · exact field_applyAll (fun b step _ => offset_apply b step) hn
  · rw [hb] at hq
    obtain ⟨joins, filter, hj, hf, rfl⟩ := build_apply_count hc hq
    rw [hg] at hj hf ⊢
    refine ⟨joins, filter, hj, hf, rfl, countingText_eq_iff.trans ?_⟩
    simp [sortingText_eq_empty_iff, offsetText_eq_empty_iff, s]
  · intro e r rows v he hv
    have hl := hr he
    rwa [List.head?_cons, Option.bind_some, lookup_count hv] at hl
  · intro e r v he hv
    have hl := hr he
    split
    · rename_i ho
      rw [ho] at hl
      rwa [List.drop_zero, List.take_one, List.head?_cons, Option.toList_some, List.head?_cons,
        Option.bind_some, lookup_count hv] at hl
    · rename_i ho
      rwa [List.drop_eq_nil_of_le (Nat.one_le_iff_ne_zero.mpr ho)] at hl

/-- The paid orders of a page, and then of all pages. -/
def paidOrders : List Step :=
  [.paginated ⟨20, some 10⟩, .filter (.data [.leaf "status" (.text "paid")]), .offsetBy 0]

theorem build_count_of_paidOrders :
    let b := ofSteps {} "orders" (paidOrders ++ [.count "userId"])
    let r := Row.ofList [("count", .string "3")]
    (ofSteps {} "orders" paidOrders).statement.command = .select ∧
    (∃ q, b.build = .ok q ∧ q.sql =
      "SELECT count(orders.user_id) AS count FROM orders WHERE \"status\" = $1 LIMIT 1") ∧
    (ofSteps {} "orders" paidOrders).statement.offset = 0 ∧
    r.get? "count" = some (.string "3") ∧
    b.ResolvesTo (.scripted [.ok [r, .empty]]) (some (.string "3")) := by
  intro b r
  obtain ⟨q, hb, hq⟩ : ∃ q, b.build = .ok q ∧ q.sql =
      "SELECT count(orders.user_id) AS count FROM orders WHERE \"status\" = $1 LIMIT 1" :=
    ⟨_, rfl, by decide +kernel⟩
  obtain ⟨-, ho, -, hr, -⟩ := build_count_iff {} "orders" paidOrders "userId" rfl hb
  exact ⟨rfl, ⟨q, hb, hq⟩, ho, rfl, hr _ r [.empty] _ rfl rfl⟩

/-- A count of all rows behind an offset is not the text of a plain count. Where the database skips
the rows of the offset, there is no count to resolve to. -/
theorem build_count_behind_offset :
    let s := (ofSteps {} "t" [.offsetBy 10]).statement
    let b := ofSteps {} "t" [.offsetBy 10, .count "*"]
    let r := Row.ofList [("count", .string "3")]
    (ofSteps {} "t" [.offsetBy 10]).fault = none ∧ s.command = .select ∧
    Join.listSql {} "t" s.joins = .ok [] ∧ whereSql ({} : Config).naming s.conditions = .ok [] ∧
    s.countingText {} "*" (s.sourceText {} [] []) [] =
      "SELECT count(*) AS count FROM t LIMIT 1" ∧
    (∃ q, b.build = .ok q ∧ q.sql = "SELECT count(*) AS count FROM t OFFSET 10 LIMIT 1") ∧
    b.ResolvesTo (.scripted [.ok (([r].drop s.offset).take 1)]) none := by
  intro s b r
  obtain ⟨q, hb, hq⟩ : ∃ q, b.build = .ok q ∧
      q.sql = "SELECT count(*) AS count FROM t OFFSET 10 LIMIT 1" := ⟨_, rfl, by decide +kernel⟩
  have hr : b.ResolvesTo (.scripted [.ok (([r].drop s.offset).take 1)])
      (([r].drop s.offset).take 1 |>.head?.bind fun r => lookup b.config.naming r "count") :=
    resolvesTo_rows rfl hb rfl
  exact ⟨rfl, rfl, rfl, rfl, by decide +kernel, ⟨q, hb, hq⟩, hr⟩

end Builder

end SqlCompose
