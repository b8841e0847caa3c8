import SqlCompose.Proofs.Execution.Report
import SqlCompose.Proofs.Statement.Veil

/-!
# Bound values stay out of text and reports

Two statements that are the same once veiled are written alike, and so are the counts of their rows.
A run reports a statement by its outline, and what follows depends on the answers of the executor.
So two runs that get the same answers report the same (`outlines_and_events_of_veiled_eq`).
-/

namespace SqlCompose

/-- A statement is reported by its outline. -/
theorem Event.ofQuery_of_outline_eq {q r : Query} (h : q.outline = r.outline) (command : String) :
    ofQuery command q = ofQuery command r := by
  obtain ⟨hs, hp⟩ := Prod.mk.inj h
  unfold ofQuery
  rw [hs, hp]

theorem Command.name_veiled (c : Command) : c.veiled.name = c.name := by
  cases c <;> rfl

namespace Query

/-- Results that have the same outline, or the same error. -/
theorem map_outline_eq {x y : Except BuildError Query} (h : x.map outline = y.map outline) :
    (∃ err, x = .error err ∧ y = .error err) ∨
      ∃ q r, x = .ok q ∧ y = .ok r ∧ q.outline = r.outline := by
  cases x with
  | error err =>
    cases y with
    | error err' =>
      cases h
      exact .inl ⟨err, rfl, rfl⟩
    | ok r => cases h
  | ok q =>
    cases y with
    | error err => cases h
    | ok r => exact .inr ⟨q, r, rfl, rfl, Except.ok.inj h⟩

end Query

namespace Builder

/-- Do two builders differ in values to bind only? -/
structure Alike (b c : Builder) : Prop where
  config : b.config = c.config
  fault : b.fault = c.fault
  statement : b.statement.veiled = c.statement.veiled

/-- Does each call that two runs both make get the same answer? -/
def SameAnswers (b c : Builder) (e f : Executor) (m : Mode) : Prop :=
  ∀ n q r, (b.journal e m).calls[n]? = some q → (c.journal f m).calls[n]? = some r → e n q = f n r

variable {b : Builder} {e : Executor} {m : Mode}

/-- Rows are resolved by calls behind those before. -/
theorem exists_calls_resolve (rows : List Row) (j : Journal) :
    ∃ qs, ((b.resolve e m rows).on j).2.calls = j.calls ++ qs := by
  cases hc : m.completes b.statement rows with
  | false =>
    rw [resolve_of_not_completes hc]
    exact ⟨[], (List.append_nil _).symm⟩
  | true =>
    cases rows with
    | cons row rows => exact ⟨[], (calls_resolve_cons row rows j).trans (List.append_nil _).symm⟩
    | nil =>
      cases hq : b.statement.compileCount b.config with
      | error err =>
        rw [resolve_on_of_completes hc, complete_nil_on_error b e j hq]
        exact ⟨[], (List.append_nil _).symm⟩
      | ok count => exact ⟨[count], (resolve_nil_on hc hq j).1⟩

/-- A built statement is the first call. -/
theorem first_call {q : Query} (h : b.build = .ok q) : (b.journal e m).calls[0]? = some q := by
  unfold journal
  rw [runIn_on_ok h]
  cases e 0 q with
  | error err => rfl
  | ok rows =>
    obtain ⟨qs, hqs⟩ := exists_calls_resolve (b := b) (e := e) (m := m) rows (b.sent q)
    dsimp only
    rw [hqs]
    rfl

/-- The count of an empty page is the second call. -/
theorem second_call {q count : Query} (h : b.build = .ok q) (ha : e 0 q = .ok [])
    (hc : m.completes b.statement [] = true)
    (hq : b.statement.compileCount b.config = .ok count) :
    (b.journal e m).calls[1]? = some count := by
  unfold journal
  rw [runIn_on_ok h, ha, (resolve_nil_on hc hq (b.sent q)).1]
  rfl

namespace Alike

variable {b c : Builder} (h : b.Alike c)

include h

theorem outline_compile :
    (b.statement.compile b.config).map Query.outline =
      (c.statement.compile c.config).map Query.outline := by
  rw [← Statement.outline_compile_veiled, h.statement, h.config, Statement.outline_compile_veiled]

theorem outline_compileCount :
    (b.statement.compileCount b.config).map Query.outline =
      (c.statement.compileCount c.config).map Query.outline := by
  rw [← Statement.outline_compileCount_veiled, h.statement, h.config,
    Statement.outline_compileCount_veiled]

theorem outline_build : b.build.map Query.outline = c.build.map Query.outline := by
  unfold build
  rw [h.fault]
  cases c.fault with
  | none => exact h.outline_compile
  | some err => rfl

theorem hasWindowTotal : b.statement.hasWindowTotal = c.statement.hasWindowTotal := by
  rw [← Statement.hasWindowTotal_veiled, h.statement, Statement.hasWindowTotal_veiled]

theorem command_name : b.statement.command.name = c.statement.command.name := by
  have hc : b.statement.command.veiled = c.statement.command.veiled :=
    congrArg Statement.command h.statement
  rw [← Command.name_veiled, hc, Command.name_veiled]

theorem completes (m : Mode) (rows : List Row) :
    m.completes b.statement rows = m.completes c.statement rows := by
  unfold Mode.completes
  rw [h.hasWindowTotal]

theorem offset : b.statement.offset = c.statement.offset := by
  show b.statement.veiled.offset = c.statement.veiled.offset
  rw [h.statement]

theorem limit : b.statement.limit = c.statement.limit := by
  show b.statement.veiled.limit = c.statement.veiled.limit
  rw [h.statement]

/-- The answer to the count decides what is reported of it. -/
theorem countEvents {e f : Executor}
    (ha : ∀ q r, b.statement.compileCount b.config = .ok q →
      c.statement.compileCount c.config = .ok r → e 1 q = f 1 r) :
    b.countEvents e = c.countEvents f := by
  unfold Builder.countEvents
  rcases Query.map_outline_eq h.outline_compileCount with ⟨err, hb, hc⟩ | ⟨q, r, hb, hc, hqr⟩
  · rw [hb, hc]
  · rw [hb, hc]
    dsimp only
    rw [h.offset, h.limit, h.config, Event.ofQuery_of_outline_eq hqr, ha q r hb hc]

/-- Two runs with the same answers report the same. -/
theorem events_eq {e f : Executor} {m : Mode} (ha : SameAnswers b c e f m) :
    (b.journal e m).events = (c.journal f m).events := by
  rw [events_journal, events_journal]
  rcases Query.map_outline_eq h.outline_build with ⟨err, hb, hc⟩ | ⟨q, r, hb, hc, hqr⟩
  · rw [hb, hc]
  rw [hb, hc]
  dsimp only
  rw [h.command_name, Event.ofQuery_of_outline_eq hqr]
  have h0 : e 0 q = f 0 r := by
    refine ha 0 q r ?_ ?_
    · exact first_call hb
    · exact first_call hc
  rw [h0]
  cases hr : f 0 r with
  | error err => rfl
  | ok rows =>
    dsimp only
    congr 1
    unfold answerEvents
    rw [h.completes, h.config]
    split
    · rename_i hw
      cases rows with
      | cons row rows => rfl
      | nil =>
        refine h.countEvents fun count count' hq hq' => ?_
        refine ha 1 count count' ?_ ?_
        · exact second_call hb (h0.trans hr) ((h.completes m []).trans hw) hq
        · exact second_call hc hr hw hq'
    · rfl

end Alike

/-- Two statements that differ in values to bind only have the same text and as many parameters, or
the same error. So have the counts of their rows. Two runs of them in a mode that get the same
answers report the same. -/
theorem outlines_and_events_of_veiled_eq (config : Config) {s t : Statement}
    (h : s.veiled = t.veiled) :
    (s.compile config).map Query.outline = (t.compile config).map Query.outline ∧
      (s.compileCount config).map Query.outline = (t.compileCount config).map Query.outline ∧
      ∀ (fault : Option BuildError) (e f : Executor) (m : Mode),
        SameAnswers ⟨config, s, fault⟩ ⟨config, t, fault⟩ e f m →
          (journal ⟨config, s, fault⟩ e m).events = (journal ⟨config, t, fault⟩ f m).events := by
  have ha (fault : Option BuildError) : Alike ⟨config, s, fault⟩ ⟨config, t, fault⟩ :=
    ⟨rfl, rfl, h⟩
  refine ⟨(ha none).outline_compile, (ha none).outline_compileCount, ?_⟩
  intro fault e f m hs
  exact (ha fault).events_eq hs

/-- A page of the users of a name. -/
def pageOfUsers (name : String) : Statement where
  table := "users"
  conditions := [.leaf "name" (.text name)]
  limit := some 10
  paginated := true

theorem events_of_pageOfUsers :
    (pageOfUsers "ada").veiled = (pageOfUsers "eve").veiled ∧
      ((pageOfUsers "ada").compile {}).map Query.outline =
        ((pageOfUsers "eve").compile {}).map Query.outline ∧
      ((pageOfUsers "ada").compileCount {}).map Query.outline =
        ((pageOfUsers "eve").compileCount {}).map Query.outline ∧
      (journal ⟨{}, pageOfUsers "ada", none⟩ (.scripted []) .page).events =
        (journal ⟨{}, pageOfUsers "eve", none⟩ (.scripted []) .page).events := by
  have h : (pageOfUsers "ada").veiled = (pageOfUsers "eve").veiled := rfl
  obtain ⟨hc, hn, he⟩ := outlines_and_events_of_veiled_eq {} h
  exact ⟨h, hc, hn, he none (.scripted []) (.scripted []) .page fun _ _ _ _ _ => rfl⟩

end Builder

end SqlCompose
