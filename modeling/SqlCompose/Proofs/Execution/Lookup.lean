import SqlCompose.Proofs.Execution.RoundTrip
import SqlCompose.Proofs.Row
import SqlCompose.Proofs.Statement.Key

/-!
# Values of columns

The value of a key is looked up under the name that the key yields, which is read from the key on
its own: without its prefix, its cast and its path. For keys of columns this is the name as it is
written (`Builder.columnName_text`), and it leads to the name under which the column is returned. So
what is found is the value of the column that was selected (`Builder.lookup_reads_projection`).
-/

namespace SqlCompose

/-- The row has the value of the key, under the name that the database returns or under that of the
caller for it, and nothing under the other of these or under the name as it is written. -/
def ColumnKey.Arrives (k : ColumnKey) (naming : Naming) (r : Row) (v : Json) : Prop :=
  ∃ column ∈ [k.output naming, naming.callerName (k.output naming)], r.get? column = some v ∧
    ∀ other ∈ [k.written, k.output naming, naming.callerName (k.output naming)],
      other ≠ column → r.get? other = none

namespace Builder

open Text

/-- The name that a key yields is its name as it is written. -/
theorem columnName_text (k : ColumnKey) : columnName k.text = k.written := by
  unfold columnName ColumnKey.written
  rw [ColumnKey.afterMark?_text]
  dsimp only [Option.getD_none]
  rw [ColumnKey.splitAlias?_text]
  cases hl : k.label with
  | some a =>
    have hd : splitAt '.' a = [a] := splitWhere_of_none fun x hx => by
      simpa using (Convention.ne_dot_of_isWord (k.isWord_label a hl) x hx).1
    dsimp only [Option.map_some]
    rw [splitAtDouble_of_not_mem (ColumnKey.colon_not_mem_label hl), hd]
    rfl
  | none =>
    have ht : k.text.toList = k.expression := by
      unfold ColumnKey.text
      rw [hl]
      exact String.toList_ofList
    have hm : String.ofList ((splitAt '.' k.column).getLastD []) = String.ofList k.marked := by
      rw [ColumnKey.splitAt_column]
      exact congrArg String.ofList List.getLastD_concat
    dsimp only [Option.map_none]
    rw [ht, ColumnKey.splitAtDouble_expression]
    cases hc : k.cast with
    | some t => exact hm
    | none =>
      have he : k.expression = k.column := by
        unfold ColumnKey.expression
        rw [hc]
      dsimp only [Option.map_none]
      rw [he]
      exact hm

theorem lookup_of_arrives {naming : Naming} {k : ColumnKey} {r : Row} {v : Json}
    (h : k.Arrives naming r v) : lookup naming r k.text = some v := by
  obtain ⟨column, hm, hv, ho⟩ := h
  have hn : naming.arrivals k.written =
      [k.written, k.output naming, naming.callerName (k.output naming)] := by
    unfold Naming.arrivals
    rw [Naming.bareName_written]
  have hf : r.findName? (naming.arrivals k.written) = some column := by
    rw [hn]
    refine Row.findName?_eq_some (List.mem_cons_of_mem k.written hm) ?_ fun other hmem hne => ?_
    · rw [Row.contains, hv, Option.isSome_some]
    · rw [Row.contains, ho other hmem hne, Option.isSome_none]
  unfold lookup
  rw [columnName_text, hf, Option.bind_some, hv]
  rfl

/-! ## Runs for one value -/

/-- A run for what was asked for and a run for one value resolve to the value. -/
structure ResolvesTo (b : Builder) (e : Executor) (value : Option Json) : Prop where
  output : b.outcome e .output = .ok (Output.value value)
  value : b.outcome e .value = .ok value

section ResolvesTo

variable {b : Builder} {e : Executor} {q : Query} {r : Row} {rows : List Row} {key : String}

/-- Statements for the value of a key resolve to what is looked up in the first row, if any. -/
theorem resolvesTo_rows (hf : b.statement.first = some (.value key)) (hb : b.build = .ok q)
    (he : e 0 q = .ok rows) :
    b.ResolvesTo e (rows.head?.bind fun r => lookup b.config.naming r key) := by
  have hw (m : Mode) : m.completes b.statement rows = false := by
    simp [Mode.completes, Statement.hasWindowTotal, hf]
  have hv : b.valueOf = fun r => lookup b.config.naming r key := by
    funext r
    simp [valueOf, hf]
  constructor
  · unfold outcome
    rw [runIn_on_ok hb, he]
    dsimp only
    rw [resolve_of_not_completes (hw .output), Run.on_pure]
    simp [ofRows, hf]
  · unfold outcome
    rw [runIn_on_ok hb, he]
    dsimp only
    rw [resolve_of_not_completes (hw .value), Run.on_pure]
    exact congrArg (fun f => Except.ok (rows.head?.bind f)) hv

theorem resolvesTo_lookup (hf : b.statement.first = some (.value key)) (hb : b.build = .ok q)
    (he : e 0 q = .ok (r :: rows)) : b.ResolvesTo e (lookup b.config.naming r key) :=
  resolvesTo_rows hf hb he

theorem ResolvesTo.unique {v w : Option Json} (hv : b.ResolvesTo e v) (hw : b.ResolvesTo e w) :
    v = w :=
  Except.ok.inj (hv.value.symm.trans hw.value)

end ResolvesTo

/-- The value of a key is read from the column that the key selects. The column is selected under
its output name, as its alias or as its last segment. A row that has one column under this name or
under that of the caller for it gives the value of this column, whatever other columns it has and
in whatever order. So a run for the first value of the key resolves to it. -/
theorem lookup_reads_projection (naming : Naming) (k : ColumnKey) :
    Statement.keyText naming k.text = k.projection naming ∧
    (∀ r v, k.Arrives naming r v → lookup naming r k.text = some v) ∧
    ∀ (b : Builder) (e : Executor) (q : Query) (r : Row) (rows : List Row) (v : Json),
      b.config.naming = naming → (b.apply (.firstValue k.text)).build = .ok q →
      e 0 q = .ok (r :: rows) → k.Arrives naming r v →
      (b.apply (.firstValue k.text)).outcome e .output = .ok (Output.value (some v)) := by
  refine ⟨Statement.keyText_columnKey naming k, fun _ _ => lookup_of_arrives,
    fun b e q r rows v hb hq he h => ?_⟩
  have hr := (resolvesTo_lookup (b := b.apply (.firstValue k.text)) rfl hq he).output
  show _ = Except.ok (Output.value (some v))
  rw [hr]
  show Except.ok (Output.value (lookup b.config.naming r k.text)) = _
  rw [hb, lookup_of_arrives h]

/-- The key `users.!createdAt::pg_catalog.date:madeAt`. -/
def madeAt : ColumnKey where
  path := [['u', 's', 'e', 'r', 's']]
  bare := true
  name := ['c', 'r', 'e', 'a', 't', 'e', 'd', 'A', 't']
  cast := some ("pg_catalog.date".toList)
  label := some ['m', 'a', 'd', 'e', 'A', 't']
  isWord_path := by decide
  isWord_name := by decide
  cast_ne_nil := by decide
  colon_not_mem_cast := by decide
  isWord_label := by decide

theorem lookup_of_madeAt :
    let naming := ({} : Config).naming
    let stored := Row.ofList [("id", .null), ("made_at", .bool true)]
    let recased := Row.ofList [("madeAt", .bool true), ("createdAt", .null)]
    Statement.keyText naming "users.!createdAt::pg_catalog.date:madeAt" =
      "\"users\".created_at::pg_catalog.date AS made_at" ∧
    lookup naming stored "users.!createdAt::pg_catalog.date:madeAt" = some (.bool true) ∧
    lookup naming recased "users.!createdAt::pg_catalog.date:madeAt" = some (.bool true) ∧
    ((ofTable {} "users").apply (.firstValue "users.!createdAt::pg_catalog.date:madeAt")).outcome
      (.scripted [.ok [recased, stored]]) .output = .ok (Output.value (some (.bool true))) := by
  intro naming stored recased
  have ht : madeAt.text = "users.!createdAt::pg_catalog.date:madeAt" := by decide
  have ho : madeAt.output naming = "made_at" := by decide +kernel
  have hw : madeAt.written = "madeAt" := by decide
  have hc : naming.callerName "made_at" = "madeAt" := by decide +kernel
  have hs : madeAt.Arrives naming stored (.bool true) := by
    unfold ColumnKey.Arrives
    rw [ho, hw, hc]
    exact ⟨"made_at", List.mem_cons_self, rfl, by decide⟩
  have hr : madeAt.Arrives naming recased (.bool true) := by
    unfold ColumnKey.Arrives
    rw [ho, hw, hc]
    exact ⟨"madeAt", by decide, rfl, by decide⟩
  obtain ⟨hk, hl, hv⟩ := lookup_reads_projection naming madeAt
  rw [← ht]
  exact ⟨hk.trans (by decide +kernel), hl _ _ hs, hl _ _ hr,
    hv (ofTable {} "users") _ _ _ _ _ rfl rfl rfl hr⟩

end Builder

end SqlCompose
