import SqlCompose.Proofs.Builder.Fault
import SqlCompose.Proofs.Condition.Writing
import SqlCompose.Proofs.Statement.Filter

/-!
# Conditions as they are alone

The conditions of a statement come from several calls and stand in several clauses, but each list is
written as it is alone, and only the numbers of its placeholders follow from what is in front of it
(`Condition.write_eq_of_parts`). For the source of a select this means that the step which writes it
may take any step for conditions that agrees on those that occur (`Statement.writeSource_congr`).
-/

namespace SqlCompose

open Condition

/-! ## Expressions as steps -/

/-- What is made of the expression of conditions is written as a step where its text depends on the
text of the expression alone. -/
theorem writes_of_rootSql {naming : Naming} {cs : List Condition} {f : String → String}
    {g : Sql → Sql} (ht : ∀ s p, (Sql.render p (g s)).1 = f (Sql.render p s).1)
    (hv : ∀ s, (g s).values = s.values) :
    Writing.Writes (do return f (← write naming .and .eq false cs))
      (((rootSql naming cs).mapError Unwritable.cause).map g) := by
  constructor
  · intro x hx p
    obtain ⟨s, hs, rfl⟩ := map_eq_ok hx
    cases hr : rootSql naming cs with
    | error u =>
      rw [hr] at hs
      cases hs
    | ok t =>
      rw [hr] at hs
      cases hs
      have hw : (write naming .and .eq false cs).behind p =
          (.ok (Sql.render p s).1, (Sql.render p s).2) := congrArg (renderBehind p) hr
      rw [Writing.behind_bind_of_ok hw, Writing.behind_pure, ht, hv, Sql.render_snd]
  · intro err hx p
    cases hr : rootSql naming cs with
    | error u =>
      rw [hr] at hx
      cases hx
      have hw : (write naming .and .eq false cs).behind p = (.error u.cause, p.append u.bound) :=
        congrArg (renderBehind p) hr
      exact Writing.behind_bind_of_error (congrArg Prod.fst hw) _
    | ok t =>
      rw [hr] at hx
      cases hx

/-- Something may stand for an expression that is blank. -/
theorem render_unless_blank (s : Sql) (p : Params) (blank : String) :
    (Sql.render p (if s.isBlank then Sql.text blank else s)).1 =
      if (Sql.render p s).1 = "" then blank else (Sql.render p s).1 := by
  have he := Sql.isEmpty_render p s
  by_cases hb : s.isBlank = true
  · rw [hb] at he
    rw [if_pos hb, if_pos (String.isEmpty_iff.mp he), Sql.render_text]
  · rw [if_neg hb, if_neg fun h => hb ?_]
    rw [← he, h]
    rfl

namespace Join

/-- Writes the clause of a join, and its conditions by `write`. -/
def writeClause (write : List Condition → Writing String) (config : Config) (ownTable : String)
    (j : Join) : Writing String :=
  if j.table.isEmpty then throw .missingJoinTable
  else
    let table := config.naming.bareName j.table
    let head := j.required.keyword ++ " " ++ table ++ " ON "
    match j.on with
    | .cross => return "CROSS JOIN " ++ table
    | .conditions cs => do
      let e ← write cs
      return head ++ if e = "" then "TRUE" else e
    | .keys own joined => return head ++ keysText config ownTable table own joined

variable {config : Config} {ownTable : String}

theorem writes_clause (j : Join) : Writing.Writes
    (writeClause (write config.naming .and .eq false) config ownTable j)
    (sql config ownTable j) := by
  unfold writeClause sql
  by_cases ht : j.table.isEmpty = true
  · rw [if_pos ht, if_pos ht]
    exact ⟨nofun, fun h p => by cases h; rfl⟩
  · rw [if_neg ht, if_neg ht]
    cases j.on with
    | cross =>
      refine ⟨fun h p => ?_, nofun⟩
      cases h
      rw [Writing.behind_pure, Sql.render_text, Sql.values_text, Params.append_nil]
    | conditions cs =>
      dsimp only
      rw [conditionsSql_eq]
      have hm {x : Except BuildError Sql} {g h : Sql → Sql} : (x.map g).map h = x.map (h ∘ g) := by
        cases x <;> rfl
      rw [hm]
      refine writes_of_rootSql (fun s p => ?_) fun s => ?_
      · exact congrArg (_ ++ ·) (render_unless_blank s p "TRUE")
      · have hv : (if s.isBlank then Sql.text "TRUE" else s).values = s.values :=
          Sql.values_unless_blank rfl rfl
        exact hv
    | keys own joined =>
      refine ⟨fun h p => ?_, nofun⟩
      cases h
      rw [Writing.behind_pure, Sql.values_append, Sql.values_text, Sql.values_text, List.append_nil,
        Params.append_nil, Sql.render_append, Sql.render_text, Sql.render_text]

end Join

namespace Statement

/-- Writes the WHERE clause of conditions, and these by `write`. -/
def writeFilter (write : List Condition → Writing String) (cs : List Condition) :
    Writing String := do
  let e ← write cs
  return if e = "" then "" else "WHERE " ++ e

/-- Writes what is read from, and all conditions by `write`. -/
def writeSource (write : List Condition → Writing String) (config : Config) (s : Statement) :
    Writing String := do
  let joins ← s.joins.mapM (Join.writeClause write config (config.naming.bareName s.table))
  let filter ← writeFilter write s.conditions
  return s.sourceOf config joins filter

theorem writes_filter (naming : Naming) (cs : List Condition) :
    Writing.Writes (writeFilter (write naming .and .eq false) cs) (whereSql naming cs) := by
  rw [whereSql_eq]
  refine writes_of_rootSql (fun s p => ?_) fun s => ?_
  · have he := Sql.isEmpty_render p s
    by_cases hb : s.isBlank = true
    · rw [hb] at he
      rw [if_pos hb, if_pos (String.isEmpty_iff.mp he)]
      rfl
    · rw [if_neg hb, if_neg fun h => hb ?_]
      · rfl
      · rw [← he, h]
        rfl
  · exact Sql.values_unless_blank rfl rfl

/-- A statement around a source is the query of the step that writes the source, where its text
depends on the text of the source alone. -/
theorem map_toQuery_eq {config : Config} {s : Statement} {f : String → String}
    {g : Sql → Sql → Sql} (hg : ∀ joins filter, Sql.toQuery (g joins filter) =
      ⟨f (s.sourceText config joins filter), joins.values ++ filter.values⟩) :
    ((Join.listSql config (config.naming.bareName s.table) s.joins).bind fun joins =>
        (whereSql config.naming s.conditions).map (g joins)).map Sql.toQuery =
      (writeSource (write config.naming .and .eq false) config s).toQuery f := by
  have hc : ∀ j ∈ s.joins, Writing.Writes
      (Join.writeClause (write config.naming .and .eq false) config
        (config.naming.bareName s.table) j)
      (Join.sql config (config.naming.bareName s.table) j) := fun j _ => Join.writes_clause j
  have hw := writes_filter config.naming s.conditions
  unfold Writing.toQuery writeSource Join.listSql
  cases hj : s.joins.mapM (Join.sql config (config.naming.bareName s.table)) with
  | error err =>
    rw [Writing.behind_bind_of_error (Writing.mapM_of_error hc hj .empty)]
    rfl
  | ok joins =>
    rw [Writing.behind_bind_of_ok (Writing.mapM_of_ok hc hj .empty)]
    cases hf : whereSql config.naming s.conditions with
    | error err =>
      rw [Writing.behind_bind_of_error (hw.error hf _)]
      rfl
    | ok filter =>
      rw [Writing.behind_bind_of_ok (hw.ok hf _)]
      show Except.ok (Sql.toQuery _) = Except.ok (Query.mk _ _)
      rw [hg, sourceText, Sql.render_joined, Sql.values_joined]
      rfl

theorem compile_eq_toQuery {config : Config} {s : Statement} (hc : s.command = .select)
    (hk : s.conflict = none) :
    s.compile config = (writeSource (write config.naming .and .eq false) config s).toQuery
      (s.selectText config) := by
  rw [compile, sql_select hc hk]
  exact map_toQuery_eq (toQuery_select config s)

theorem compileCount_eq_toQuery (config : Config) (s : Statement) :
    s.compileCount config = (writeSource (write config.naming .and .eq false) config s).toQuery
      (s.countText config) := by
  rw [compileCount, countSql_eq]
  exact map_toQuery_eq (toQuery_count config s)

/-- It only matters to a source how the conditions that occur in it are written. -/
theorem writeSource_congr {w v : List Condition → Writing String} {config : Config} {s : Statement}
    (hf : w s.conditions = v s.conditions)
    (hj : ∀ j ∈ s.joins, ∀ cs, j.on = .conditions cs → w cs = v cs) :
    writeSource w config s = writeSource v config s := by
  have hc : ∀ j ∈ s.joins, Join.writeClause w config (config.naming.bareName s.table) j =
      Join.writeClause v config (config.naming.bareName s.table) j := by
    intro j hm
    unfold Join.writeClause
    cases hon : j.on with
    | cross => rfl
    | conditions cs =>
      dsimp only
      rw [hj j hm cs hon]
    | keys own joined => rfl
  unfold writeSource writeFilter
  rw [Writing.mapM_congr hc, hf]

end Statement

/-! ## Calls that add conditions -/

/-- Calls add the conditions that they read behind those there are. -/
theorem Builder.conditions_applyAll {inputs : List (Input (List Condition))}
    {lists : List (List Condition)}
    (h : List.Forall₂ (fun i cs => i.read Condition.listOfJson = .ok cs) inputs lists)
    (b : Builder) :
    (b.applyAll (inputs.map .filter)).statement.conditions =
      (b.statement.conditions :: lists).flatten := by
  induction h generalizing b with
  | nil => exact (List.append_nil _).symm
  | @cons i cs inputs lists hi _ ih =>
    have hs : (b.apply (.filter i)).statement.conditions = b.statement.conditions ++ cs := by
      show (b.attempt (i.read Condition.listOfJson) _).statement.conditions = _
      rw [hi]
      rfl
    show ((b.apply (.filter i)).applyAll _).statement.conditions = _
    rw [ih, hs, List.flatten_cons, List.flatten_cons, List.flatten_cons, List.append_assoc]

namespace Condition

/-- Conditions are written part by part and wherever they stand. Behind others they are written once
these are, the texts that are not empty have the operator between them, and the first failure counts
(1). Without dollar signs the outcome behind some parameters is the outcome behind none with every
placeholder renumbered and the values behind those parameters (2). So the conditions of several
calls are written as each list is alone (3), and so are those of joins and of the filter behind them
in a select and in the count of its rows (4). -/
theorem write_eq_of_parts :
    (∀ naming op comparer xs ys, write naming op comparer false (xs ++ ys) = do
      let left ← write naming op comparer false xs
      let right ← write naming op comparer false ys
      return Text.separated (" " ++ op.keyword ++ " ") [left, right]) ∧
    (∀ naming op comparer wrapped cs, DollarFree cs →
      write naming op comparer wrapped cs = (write naming op comparer wrapped cs).relocated) ∧
    (∀ naming (b : Builder) inputs lists,
      List.Forall₂ (fun i cs => i.read Condition.listOfJson = .ok cs) inputs lists →
      (∀ cs ∈ b.statement.conditions :: lists, DollarFree cs) →
      write naming .and .eq false (b.applyAll (inputs.map .filter)).statement.conditions =
        Text.separated " AND " <$> (b.statement.conditions :: lists).mapM
          fun cs => (write naming .and .eq false cs).relocated) ∧
    ∀ config (s : Statement), DollarFree s.conditions →
      (∀ j ∈ s.joins, ∀ cs, j.on = .conditions cs → DollarFree cs) →
      let source := s.writeSource (fun cs => (write config.naming .and .eq false cs).relocated)
        config
      (s.command = .select → s.conflict = none →
        s.compile config = source.toQuery (s.selectText config)) ∧
      s.compileCount config = source.toQuery (s.countText config) := by
  refine ⟨fun _ _ _ => write_append, fun _ _ _ wrapped _ h => (relocated_write h wrapped).symm,
    fun naming b inputs lists hr hd => ?_, fun config s hf hj => ?_⟩
  · rw [Builder.conditions_applyAll hr, write_flatten]
    refine congrArg _ (Writing.mapM_congr fun cs hm => ?_)
    exact (relocated_write (hd cs hm) false).symm
  · have hr {cs : List Condition} (h : DollarFree cs) :
        (write config.naming .and .eq false cs).relocated = write config.naming .and .eq false cs :=
      relocated_write h false
    have hw : s.writeSource _ config = s.writeSource (write config.naming .and .eq false) config :=
      Statement.writeSource_congr (hr hf) fun j hm cs hon => hr (hj j hm cs hon)
    dsimp only
    rw [hw]
    exact ⟨Statement.compile_eq_toQuery, Statement.compileCount_eq_toQuery config s⟩

/-- The later visits to a city by users that are active. -/
def visits : Statement where
  table := "visits"
  conditions := [.leaf "city" (.text "Bonn"),
    .group (.compare .gt) [.raw "age(day)" (.int 3), .leaf "guests" (.int 4)]]
  joins := [⟨"users", .conditions [.leaf "users.active" (.bool true)], .both⟩]

theorem write_eq_of_visits :
    DollarFree visits.conditions ∧
    (∀ j ∈ visits.joins, ∀ cs, j.on = .conditions cs → DollarFree cs) ∧
    (write ({} : Config).naming .and .eq false visits.conditions).relocated.behind ⟨[.bool true]⟩ =
      (.ok "\"city\" = $2 AND age(day) > 3 AND \"guests\" > $3",
        ⟨[.bool true, .text "Bonn", .int 4]⟩) ∧
    (visits.writeSource (fun cs => (write ({} : Config).naming .and .eq false cs).relocated)
      {}).toQuery (visits.selectText {}) =
      .ok ⟨"SELECT * FROM visits INNER JOIN users ON users.active = $1 " ++
        "WHERE \"city\" = $2 AND age(day) > 3 AND \"guests\" > $3",
        [.bool true, .text "Bonn", .int 4]⟩ ∧
    write ({} : Config).naming .and .eq false ((Builder.ofTable {} "visits").applyAll
      ([.data visits.conditions, .json (.object [("day", .null)])].map
        .filter)).statement.conditions =
      Text.separated " AND " <$> [[], visits.conditions, [.leaf "day" .null]].mapM
        fun cs => (write ({} : Config).naming .and .eq false cs).relocated := by
  obtain ⟨-, hr, hc, hs⟩ := write_eq_of_parts
  have hn : ∀ c ∈ ([] : List Comparison), c.DollarFree := fun c hc => absurd hc List.not_mem_nil
  have hf : DollarFree visits.conditions := List.forall_mem_cons.mpr
    ⟨⟨by decide, nofun⟩, List.forall_mem_cons.mpr ⟨⟨by decide, fun _ => trivial⟩,
      List.forall_mem_cons.mpr ⟨⟨by decide, nofun⟩, hn⟩⟩⟩
  have hj : ∀ j ∈ visits.joins, ∀ cs, j.on = .conditions cs → DollarFree cs := by
    intro j hj cs hon
    obtain rfl := List.mem_singleton.mp hj
    cases hon
    exact List.forall_mem_cons.mpr ⟨⟨by decide, nofun⟩, hn⟩
  have hd : DollarFree [.leaf "day" .null] :=
    List.forall_mem_cons.mpr ⟨⟨by decide, nofun⟩, hn⟩
  refine ⟨hf, hj, ?_, ?_, ?_⟩
  · rw [← hr _ _ _ _ _ hf]
    rfl
  · rw [← (hs {} visits hf hj).1 rfl rfl]
    rfl
  · exact hc _ _ _ _ (.cons rfl (.cons rfl .nil)) (List.forall_mem_cons.mpr
      ⟨hn, List.forall_mem_cons.mpr ⟨hf, List.forall_mem_singleton.mpr hd⟩⟩)

end Condition

end SqlCompose
