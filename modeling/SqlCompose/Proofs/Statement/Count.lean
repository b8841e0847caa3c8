import SqlCompose.Proofs.Sql.Spaced

/-!
# Selects and the counts of their rows

A select and the count of its rows read from the same source: the table, its joins and its filter.
Both are written around the text of that source and bind its values alone, so one can be written
where the other can (`compileCount_reads_source_of_compile`).
-/

namespace SqlCompose

namespace Sql

theorem toQuery_eq (x : Sql) : toQuery x = ⟨(render .empty x).1, x.values⟩ := by
  show Query.mk (render .empty x).1 (render .empty x).2.values = _
  rw [render_snd]
  rfl

end Sql

namespace Statement

variable (config : Config) (s : Statement)

/-- The text of what is read from: the table, its joins and its filter. -/
def sourceText (joins filter : Sql) : String :=
  Text.spaced [config.naming.bareName s.table, (Sql.render .empty joins).1,
    (Sql.render (Params.empty.append joins.values) filter).1]

/-- The text of the GROUP BY clause, empty without a key. -/
def groupingText : String := (s.groupBy.map (groupText config.naming)).getD ""

/-- The text of a select from a source. -/
def selectText (source : String) : String :=
  Text.spaced ["SELECT", keysText config.naming s.keys s.hasWindowTotal, "FROM", source,
    s.groupingText config, sortingText config.naming s.sorting, offsetText s.offset,
    limitText s.limit]

/-- The text of the count of the rows of a source, or of their groups. -/
def countText (source : String) : String :=
  match s.groupBy with
  | none => Text.spaced ["SELECT count(*) AS count FROM", source]
  | some key => "SELECT count(*) AS count FROM (" ++
      Text.spaced ["SELECT 1 FROM", source, groupText config.naming key] ++ ") AS t"

variable {config s} {joins filter : Sql}

/-! ## Around the source -/

/-- The SQL of a source between plain texts. -/
def around (config : Config) (s : Statement) (joins filter : Sql) (before behind : List String) :
    Sql :=
  Sql.spaced (before.map Sql.text ++
    (Sql.text (config.naming.bareName s.table) :: joins :: filter :: behind.map Sql.text))

theorem render_around (before behind : List String) :
    (Sql.render .empty (around config s joins filter before behind)).1 =
      Text.spaced (before ++ s.sourceText config joins filter :: behind) := by
  unfold around sourceText
  rw [Sql.render_spaced, Sql.texts_map_text_append, Text.spaced_flatten]
  show Text.spaced (before ++ (Sql.render _ (Sql.text _)).1 :: _ :: _ :: Sql.texts _ _) = _
  rw [Sql.render_text, Sql.texts_map_text]
  rfl

theorem values_around (before behind : List String) :
    (around config s joins filter before behind).values = joins.values ++ filter.values := by
  have hn (ts : List String) : (ts.map Sql.text).flatMap Sql.values = [] := by
    induction ts with
    | nil => rfl
    | cons t ts ih => exact ih
  unfold around
  rw [Sql.values_spaced, List.flatMap_append, hn]
  show joins.values ++ (filter.values ++ (behind.map Sql.text).flatMap Sql.values) = _
  rw [hn, List.append_nil]

theorem toQuery_around (before behind : List String) :
    Sql.toQuery (around config s joins filter before behind) =
      ⟨Text.spaced (before ++ s.sourceText config joins filter :: behind),
        joins.values ++ filter.values⟩ := by
  rw [Sql.toQuery_eq, render_around, values_around]

/-- Without a key to group by there is no clause, which is left out as an empty one is. -/
theorem spaced_selectParts (config : Config) (s : Statement) (joins filter : Sql) :
    Sql.spaced (s.selectParts config joins filter) = around config s joins filter
      ["SELECT", keysText config.naming s.keys s.hasWindowTotal, "FROM"]
      [s.groupingText config, sortingText config.naming s.sorting, offsetText s.offset,
        limitText s.limit] := by
  unfold selectParts around groupingText
  cases s.groupBy with
  | none => simp [Sql.spaced, List.filter_cons, Sql.isBlank, Sql.text]
  | some key => rfl

theorem toQuery_select (config : Config) (s : Statement) (joins filter : Sql) :
    Sql.toQuery (Sql.spaced (s.selectParts config joins filter)) =
      ⟨s.selectText config (s.sourceText config joins filter), joins.values ++ filter.values⟩ := by
  rw [spaced_selectParts, toQuery_around]
  rfl

theorem toQuery_count (config : Config) (s : Statement) (joins filter : Sql) :
    Sql.toQuery (s.countAround config joins filter) =
      ⟨s.countText config (s.sourceText config joins filter), joins.values ++ filter.values⟩ := by
  unfold countAround countText
  cases s.groupBy with
  | none =>
    show Sql.toQuery (around config s joins filter ["SELECT count(*) AS count FROM"] []) = _
    rw [toQuery_around]
    rfl
  | some key =>
    show Sql.toQuery (Sql.text "SELECT count(*) AS count FROM (" ++ around config s joins filter
      ["SELECT 1 FROM"] [groupText config.naming key] ++ Sql.text ") AS t") = _
    simp only [Sql.toQuery_eq, Sql.render_append, Sql.values_append, Sql.render_text,
      Sql.values_text, Params.append_nil, List.nil_append, List.append_nil, render_around,
      values_around]
    rfl

/-! ## Statements -/

theorem sql_select (hc : s.command = .select) (hk : s.conflict = none) :
    s.sql config = (Join.listSql config (config.naming.bareName s.table) s.joins).bind
      fun joins => (whereSql config.naming s.conditions).map
        fun filter => Sql.spaced (s.selectParts config joins filter) := by
  unfold sql parts
  simp only [hc, hk]
  cases Join.listSql config (config.naming.bareName s.table) s.joins with
  | error err => rfl
  | ok joins => cases whereSql config.naming s.conditions <;> rfl

/-- A select without a conflict can be written if and only if the rows can be counted, with the same
parameters, and otherwise both have the same error. Both read from the text of the same joins and
the same filter behind the table, and a count has the grouping of the select. What else is selected,
in which order and how much of it does not matter to the count. -/
theorem compileCount_reads_source_of_compile (config : Config) (s : Statement)
    (hc : s.command = .select) (hk : s.conflict = none) :
    (s.compile config).map Query.params = (s.compileCount config).map Query.params ∧
    (∀ q count, s.compile config = .ok q → s.compileCount config = .ok count →
      ∃ joins filter, Join.listSql config (config.naming.bareName s.table) s.joins = .ok joins ∧
        whereSql config.naming s.conditions = .ok filter ∧
        q.sql = s.selectText config (s.sourceText config joins filter) ∧
        count.sql = s.countText config (s.sourceText config joins filter)) ∧
    ∀ keys sorting offset limit paginated first,
      compileCount config { s with keys, sorting, offset, limit, paginated, first } =
        s.compileCount config := by
  refine ⟨?_, ?_, fun _ _ _ _ _ _ => rfl⟩
  all_goals
    unfold compile compileCount
    rw [sql_select hc hk, countSql_eq]
  · cases Join.listSql config (config.naming.bareName s.table) s.joins with
    | error err => rfl
    | ok joins =>
      cases whereSql config.naming s.conditions with
      | error err => rfl
      | ok filter =>
        show Except.ok (Sql.toQuery _).params = Except.ok (Sql.toQuery _).params
        rw [toQuery_select, toQuery_count]
  · intro q count hq hn
    cases hj : Join.listSql config (config.naming.bareName s.table) s.joins with
    | error err =>
      rw [hj] at hq
      cases hq
    | ok joins =>
      cases hf : whereSql config.naming s.conditions with
      | error err =>
        rw [hj, hf] at hq
        cases hq
      | ok filter =>
        rw [hj, hf] at hq hn
        cases hq
        cases hn
        refine ⟨joins, filter, rfl, rfl, ?_, ?_⟩
        · rw [toQuery_select]
        · rw [toQuery_count]

/-- The active users with paid orders, from the last on. -/
def payingUsers : Statement where
  table := "orders"
  keys := ["userId"]
  conditions := [.leaf "status" (.text "paid")]
  joins := [⟨"users", .conditions [.leaf "users.active" (.bool true)], .both⟩]
  sorting := ["-userId"]
  limit := some 10
  groupBy := some "userId"
  paginated := true

theorem count_of_payingUsers :
    payingUsers.command = .select ∧ payingUsers.conflict = none ∧
      ∃ q count source, payingUsers.compile {} = .ok q ∧ payingUsers.compileCount {} = .ok count ∧
        q.params = [.bool true, .text "paid"] ∧
        q.sql = payingUsers.selectText {} source ∧ count.sql = payingUsers.countText {} source ∧
        count.sql = "SELECT count(*) AS count FROM (SELECT 1 FROM orders INNER JOIN users " ++
          "ON users.active = $1 WHERE \"status\" = $2 GROUP BY \"user_id\") AS t" := by
  obtain ⟨hp, ht, -⟩ := compileCount_reads_source_of_compile {} payingUsers rfl rfl
  obtain ⟨q, hq⟩ : ∃ q, payingUsers.compile {} = .ok q := ⟨_, rfl⟩
  have hn : payingUsers.compileCount {} = .ok ⟨
      "SELECT count(*) AS count FROM (SELECT 1 FROM orders INNER JOIN users " ++
        "ON users.active = $1 WHERE \"status\" = $2 GROUP BY \"user_id\") AS t",
      [.bool true, .text "paid"]⟩ := by rfl
  obtain ⟨joins, filter, -, -, hs, hc⟩ := ht q _ hq hn
  rw [hq, hn] at hp
  exact ⟨rfl, rfl, q, _, _, hq, hn, Except.ok.inj hp, hs, hc, rfl⟩

end Statement

end SqlCompose
