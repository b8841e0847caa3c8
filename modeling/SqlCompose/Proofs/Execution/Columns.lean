import SqlCompose.Proofs.Execution.Recasing
import SqlCompose.Proofs.Wire.Columns

/-!
# Rows keep their columns

From the cells that a server sends to the names of the caller, a row collects entries
(`Row.Collects`): the first entry of a name gives the place of its column, the last its value. An
executor that answers under the names of the caller passes on all else as it is: failures and the
order of rows (`Executor.forCaller_eq_ok_iff`), and the statements with their parameters
(`Builder.calls_forCaller`).
-/

namespace SqlCompose

open Wire (Field Gives Faulty decodeRow)

namespace Executor

variable {naming : Naming} {e : Executor} {n : Nat} {q : Query}

theorem forCaller_eq_error_iff {err : RunError} :
    e.forCaller naming n q = .error err ↔ e n q = .error err := by
  rw [forCaller_apply]
  cases e n q <;> simp [Except.map]

theorem forCaller_eq_ok_iff {answer : List Row} :
    e.forCaller naming n q = .ok answer ↔ ∃ rows, e n q = .ok rows ∧
      List.Forall₂ (fun r s => s.Collects (r.callerEntries naming)) rows answer := by
  have hr (r : Row) : (r.forCaller naming).Collects (r.callerEntries naming) :=
    Row.collects_ofList _
  rw [forCaller_apply]
  constructor
  · intro h
    obtain ⟨rows, he, rfl⟩ := map_eq_ok h
    exact ⟨rows, he, List.forall₂_map_right_iff.mpr (List.forall₂_same.mpr fun r _ => hr r)⟩
  · rintro ⟨rows, he, hc⟩
    have hm : List.Forall₂ (fun r s => r.forCaller naming = s) rows answer :=
      hc.imp fun r s h => (hr r).unique h
    have hl : rows.map (Row.forCaller naming) = answer := by
      rw [← List.forall₂_eq_eq_eq]
      exact List.forall₂_map_left_iff.mpr hm
    rw [he, ← hl]
    rfl

end Executor

namespace Builder

/-- An executor that answers under the names of the caller is sent what it passes on. -/
theorem calls_forCaller (b : Builder) (e : Executor) (naming : Naming) (m : Mode) :
    (b.journal (e.forCaller naming) m).calls = (b.journal e m).calls := by
  unfold journal
  cases hb : b.build with
  | error err => rw [runIn_on_error hb, runIn_on_error hb]
  | ok q =>
    rw [runIn_on_ok hb, runIn_on_ok hb, Executor.forCaller_apply]
    cases e 0 q with
    | error err => rfl
    | ok rows =>
      cases rows with
      | cons row rows => exact (calls_resolve_cons _ _ _).trans (calls_resolve_cons _ _ _).symm
      | nil =>
        -- Without rows there are none under any names, so the same rows are counted.
        show ((b.resolve (e.forCaller naming) m []).on (b.sent q)).2.calls =
          ((b.resolve e m []).on (b.sent q)).2.calls
        cases hm : m.completes b.statement [] with
        | false =>
          rw [resolve_of_not_completes hm, resolve_of_not_completes hm]
        | true =>
          obtain ⟨count, hc⟩ := Statement.exists_compileCount
            (isSelect_of_hasWindowTotal (Mode.completes_nil.mp hm).1) (build_eq_ok hb)
          rw [(resolve_nil_on hm hc (b.sent q)).1, (resolve_nil_on hm hc (b.sent q)).1]

end Builder

/-- Rows keep their columns. A row is decoded from its fields unless one of them is at fault, and then
the first of these is reported. The row collects the entries that the fields give: its columns are
their names, each once and in the order in which they occur first, with the value of the last field
of the name. An executor that answers under the names of the caller fails as the executor itself
does, and otherwise has a row for each row, in their order, which collects the entries of that row
under the names of the caller. It is sent what the executor itself would be. So where names are
distinct, those of the columns or those of the caller, each column is kept in its place. -/
theorem rows_keep_columns :
    (∀ fields : List Field,
      let decoded := decodeRow (fields.map Prod.fst) (fields.map Prod.snd)
      (∀ err, decoded = .error err ↔ ∃ before field behind, fields = before ++ field :: behind ∧
        (∀ f ∈ before, ∃ entry, Gives f entry) ∧ Faulty before.length field err) ∧
      (∀ row, decoded = .ok row ↔
        ∃ entries, List.Forall₂ Gives fields entries ∧ row.Collects entries) ∧
      ∀ row, decoded = .ok row → (fields.map fun f => f.1.name).Nodup →
        List.Forall₂ Gives fields row.entries) ∧
    (∀ (naming : Naming) (e : Executor) (n : Nat) (q : Query),
      (∀ err, e.forCaller naming n q = .error err ↔ e n q = .error err) ∧
      (∀ answer, e.forCaller naming n q = .ok answer ↔ ∃ rows, e n q = .ok rows ∧
        List.Forall₂ (fun r s => s.Collects (r.callerEntries naming)) rows answer) ∧
      ∀ rows answer, e n q = .ok rows → e.forCaller naming n q = .ok answer →
        (∀ r ∈ rows, (Entries.keys (r.callerEntries naming)).Nodup) →
        answer.map Row.entries = rows.map (Row.callerEntries naming)) ∧
    ∀ (b : Builder) (e : Executor) (naming : Naming) (m : Mode),
      (b.journal (e.forCaller naming) m).calls = (b.journal e m).calls := by
  refine ⟨fun fields => ⟨fun err => Wire.decodeRow_eq_error_iff,
    fun row => Wire.decodeRow_eq_ok_iff, fun row => Wire.gives_entries_of_decodeRow⟩,
    fun naming e n q => ⟨fun err => Executor.forCaller_eq_error_iff,
      fun answer => Executor.forCaller_eq_ok_iff, fun rows answer hr ha hd => ?_⟩,
    Builder.calls_forCaller⟩
  rw [Executor.forCaller_apply, hr] at ha
  cases ha
  rw [List.map_map]
  exact List.map_congr_left fun r hm => Row.entries_forCaller (hd r hm)

/-- A user and his order, each with a flag of the same name. -/
def userWithOrder : List Field :=
  [(⟨"open", .bool⟩, some [1]), (⟨"paid_at", .timestamp⟩, none), (⟨"open", .bool⟩, some [0])]

/-- Answers that have a column under two spellings. -/
def spelledTwice : Executor :=
  .scripted [.ok [.ofList [("paid_at", .null), ("open", .bool true), ("paidAt", .bool false)]],
    .ok [.ofList [("open", .bool true), ("paid_at", .null)]]]

theorem rows_keep_columns_userWithOrder :
    let decode (fields : List Field) := decodeRow (fields.map Prod.fst) (fields.map Prod.snd)
    let naming : Naming := ⟨.snake, .camel⟩
    let row := Row.ofList [("open", .bool false), ("paid_at", .null)]
    let dated := Row.ofList [("paidAt", .bool false), ("open", .bool true)]
    decode userWithOrder = .ok row ∧
      row.Collects [("open", .bool true), ("paid_at", .null), ("open", .bool false)] ∧
      List.Forall₂ Gives (userWithOrder.drop 1) [("paid_at", .null), ("open", .bool false)] ∧
      decode ((⟨"open", .bool⟩, some [1, 0]) :: userWithOrder) =
        .error (.decode "open" "error deserializing column 0") ∧
      spelledTwice.forCaller naming 0 ⟨"", []⟩ = .ok [dated] ∧
      dated.Collects [("paidAt", .null), ("open", .bool true), ("paidAt", .bool false)] ∧
      (∀ answer, spelledTwice.forCaller naming 1 ⟨"", []⟩ = .ok answer →
        answer.map Row.entries = [[("open", .bool true), ("paidAt", .null)]]) := by
  intro decode naming row dated
  obtain ⟨hf, he, -⟩ := rows_keep_columns
  have hg : List.Forall₂ Gives userWithOrder
      [("open", .bool true), ("paid_at", .null), ("open", .bool false)] :=
    .cons (.value rfl rfl) (.cons (.null nofun) (.cons (.value rfl rfl) .nil))
  have hc := Row.collects_ofList [("open", .bool true), ("paid_at", .null), ("open", .bool false)]
  have hs : dated.Collects [("paidAt", .null), ("open", .bool true), ("paidAt", .bool false)] :=
    Row.collects_ofList [("paidAt", .null), ("open", .bool true), ("paidAt", .bool false)]
  have hd : decode (userWithOrder.drop 1) = .ok (.ofList [("paid_at", .null), ("open", .bool false)]) :=
    ((hf _).2.1 _).mpr ⟨_, (List.forall₂_cons.mp hg).2, Row.collects_ofList _⟩
  refine ⟨((hf _).2.1 row).mpr ⟨_, hg, hc⟩, hc, (hf _).2.2 _ hd (by decide), ?_, ?_, hs, ?_⟩
  · exact ((hf _).1 _).mpr ⟨[], _, _, rfl, nofun, .undecodable rfl rfl⟩
  · exact ((he naming spelledTwice 0 ⟨"", []⟩).2.1 _).mpr ⟨_, rfl, .cons hs .nil⟩
  · intro answer ha
    exact (he naming spelledTwice 1 ⟨"", []⟩).2.2 _ answer rfl ha (by decide)

end SqlCompose
