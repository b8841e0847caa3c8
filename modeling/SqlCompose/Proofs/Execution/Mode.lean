import SqlCompose.Execution.Run

/-!
# The modes of a run

A statement can be run in five modes, which differ in what the rows are resolved to. All of them
send the statement first; then they complete a page or resolve the rows as they are (`runIn_eq`).
The lemmas `on_…` say what the parts of a run do to the journal.
-/

namespace SqlCompose

/-! ## Runs on a journal -/

namespace Run

variable {α β : Type}

/-- The result of a run that starts with the journal `j`, and the journal then. -/
def on (r : Run α) (j : Journal) : Except RunError α × Journal := (ExceptT.run r).run j

theorem on_pure (a : α) (j : Journal) : (pure a : Run α).on j = (.ok a, j) := rfl

theorem on_bind (r : Run α) (f : α → Run β) (j : Journal) :
    (r >>= f).on j = match r.on j with
      | (.ok a, k) => (f a).on k
      | (.error err, k) => (.error err, k) := by
  unfold on ExceptT.run StateT.run
  simp only [bind, ExceptT.bind, ExceptT.mk, ExceptT.bindCont, StateT.bind]
  cases r j with
  | mk result k => cases result <;> rfl

theorem on_map (f : α → β) (r : Run α) (j : Journal) :
    (f <$> r).on j = ((r.on j).1.map f, (r.on j).2) := by
  unfold on ExceptT.run StateT.run
  simp only [Functor.map, ExceptT.map, ExceptT.mk, bind, StateT.bind]
  cases r j with
  | mk result k => cases result <;> rfl

theorem on_lift (r : Except RunError α) (j : Journal) : (lift r).on j = (r, j) := rfl

theorem on_built (r : Except BuildError α) (j : Journal) :
    (built r).on j = (r.mapError .build, j) := rfl

theorem on_report (event : Event) (j : Journal) :
    (report event).on j = (.ok (), { j with events := j.events ++ [event] }) := rfl

/-- A statement is reported, sent, and answered. -/
theorem on_send (e : Executor) (command : String) (q : Query) (j : Journal) :
    (send e command q).on j =
      (e j.calls.length q, ⟨j.calls ++ [q], j.events ++ [.ofQuery command q]⟩) := rfl

end Run

/-! ## Modes -/

/-- What a run is to resolve to. -/
inductive Mode where
  /-- What the builder asked for. -/
  | output
  | rows
  | first
  | value
  | page
  deriving DecidableEq, Repr

namespace Mode

/-- The results of a mode. -/
def Result : Mode → Type
  | output => Output
  | rows => List Row
  | first => Option Row
  | value => Option Json
  | page => Page

/-- Does the mode complete a page of these rows? A single value of no rows is none without it. -/
def completes (m : Mode) (s : Statement) (rows : List Row) : Bool :=
  s.hasWindowTotal && (m != .value || !rows.isEmpty)

end Mode

namespace Builder

/-- Runs the statement in a mode. -/
def runIn (b : Builder) (e : Executor) : (m : Mode) → Run m.Result
  | .output => b.run e
  | .rows => b.fetchAll e
  | .first => b.fetchFirst e
  | .value => b.fetchValue e
  | .page => b.fetchPage e

/-- The value of the key that the builder asked for, or the only one. -/
def valueOf (b : Builder) (r : Row) : Option Json :=
  match b.statement.first with
  | some (.value key) => lookup b.config.naming r key
  | _ => r.only?

/-- The result of a mode for a page. -/
def ofPage (b : Builder) : (m : Mode) → Page → m.Result
  | .output, page => Output.page page
  | .rows, page => page.items
  | .first, page => page.items.head?
  | .value, page => page.items.head?.bind b.valueOf
  | .page, page => page

/-- The result of a mode for rows that are no page. -/
def ofRows (b : Builder) : (m : Mode) → List Row → m.Result
  | .output, rows =>
    match b.statement.first with
    | none => Output.rows rows
    | some .row => Output.row rows.head?
    | some (.value key) => Output.value (rows.head?.bind fun r => lookup b.config.naming r key)
  | .rows, rows => rows
  | .first, rows => rows.head?
  | .value, rows => rows.head?.bind b.valueOf
  | .page, rows => (⟨rows.length, rows⟩ : Page)

/-- What a mode does with the rows that the statement is answered with. -/
def resolve (b : Builder) (e : Executor) (m : Mode) (rows : List Row) : Run m.Result :=
  if m.completes b.statement rows then b.ofPage m <$> b.complete e rows
  else pure (b.ofRows m rows)

variable {b : Builder} {e : Executor}

theorem resolve_of_completes {m : Mode} {rows : List Row}
    (h : m.completes b.statement rows = true) :
    b.resolve e m rows = b.complete e rows >>= fun page => pure (b.ofPage m page) := by
  unfold resolve
  rw [if_pos h, map_eq_pure_bind]

theorem resolve_of_not_completes {m : Mode} {rows : List Row}
    (h : m.completes b.statement rows = false) :
    b.resolve e m rows = pure (b.ofRows m rows) := by
  unfold resolve
  rw [h]
  rfl

theorem Mode.completes_of_ne_value {m : Mode} (hm : m ≠ .value) (s : Statement) (rows : List Row) :
    m.completes s rows = s.hasWindowTotal := by
  simp [Mode.completes, hm]

variable (b e)

/-- In every mode the statement is sent and then the rows are resolved. -/
theorem runIn_eq (m : Mode) : b.runIn e m = b.sendStatement e >>= b.resolve e m := by
  cases m with
  | output =>
    refine bind_congr fun rows => ?_
    have hc := Mode.completes_of_ne_value (m := .output) (by decide) b.statement rows
    cases hw : b.statement.hasWindowTotal
    · rw [resolve_of_not_completes (hc.trans hw)]
      unfold ofRows
      rcases b.statement.first with _ | _ | key <;> rfl
    · rw [resolve_of_completes (hc.trans hw)]
      rfl
  | rows =>
    refine bind_congr fun rows => ?_
    have hc := Mode.completes_of_ne_value (m := .rows) (by decide) b.statement rows
    cases hw : b.statement.hasWindowTotal
    · rw [resolve_of_not_completes (hc.trans hw)]
      rfl
    · rw [resolve_of_completes (hc.trans hw)]
      rfl
  | first =>
    unfold runIn fetchFirst fetchAll
    rw [bind_assoc]
    refine bind_congr fun rows => ?_
    have hc := Mode.completes_of_ne_value (m := .first) (by decide) b.statement rows
    cases hw : b.statement.hasWindowTotal
    · rw [resolve_of_not_completes (hc.trans hw)]
      rfl
    · rw [resolve_of_completes (hc.trans hw)]
      exact bind_assoc (b.complete e rows) (fun page => pure page.items) fun rows => pure rows.head?
  | value =>
    refine bind_congr fun rows => ?_
    cases rows with
    | nil =>
      rw [resolve_of_not_completes (by simp [Mode.completes])]
      rfl
    | cons row rows =>
      have hc : Mode.completes .value b.statement (row :: rows) = b.statement.hasWindowTotal := by
        simp [Mode.completes]
      cases hw : b.statement.hasWindowTotal
      · rw [resolve_of_not_completes (hc.trans hw)]
        rfl
      · rw [resolve_of_completes (hc.trans hw)]
        exact bind_map_left Page.items (b.complete e (row :: rows)) fun rows =>
          pure (rows.head?.bind b.valueOf)
  | page =>
    refine bind_congr fun rows => ?_
    have hc := Mode.completes_of_ne_value (m := .page) (by decide) b.statement rows
    cases hw : b.statement.hasWindowTotal
    · rw [resolve_of_not_completes (hc.trans hw)]
      rfl
    · rw [resolve_of_completes (hc.trans hw)]
      exact (bind_pure _).symm

/-! ## What a run sends and reports -/

variable (j : Journal)

theorem sendStatement_on_error {err : BuildError} (h : b.build = .error err) :
    (b.sendStatement e).on j = (.error (.build err), j) := by
  unfold sendStatement
  rw [Run.on_bind, Run.on_built, h]
  rfl

theorem sendStatement_on_ok {q : Query} (h : b.build = .ok q) :
    (b.sendStatement e).on j = (e j.calls.length q,
      ⟨j.calls ++ [q], j.events ++ [.ofQuery b.statement.command.name q]⟩) := by
  unfold sendStatement
  rw [Run.on_bind, Run.on_built, h]
  exact Run.on_send e b.statement.command.name q j

/-- A page with rows is complete as it is. -/
theorem complete_cons_on (row : Row) (rows : List Row) :
    (b.complete e (row :: rows)).on j =
      match Page.ofRows b.config.naming row rows with
      | .error err => (.error err, j)
      | .ok page =>
        (.ok page, ⟨j.calls, j.events ++ [.complete page.total page.items.length]⟩) := by
  unfold complete
  rw [Run.on_bind, Run.on_lift]
  cases Page.ofRows b.config.naming row rows with
  | error err => rfl
  | ok page => rfl

theorem complete_nil_on_error {err : BuildError}
    (h : b.statement.compileCount b.config = .error err) :
    (b.complete e []).on j = (.error (.build err), j) := by
  unfold complete
  rw [Run.on_bind, Run.on_built, h]
  rfl

/-- A page without rows is completed by the answer to the count. -/
theorem complete_nil_on {q : Query} (h : b.statement.compileCount b.config = .ok q) :
    (b.complete e []).on j =
      let events := j.events ++ [.emptyPage b.statement.offset b.statement.limit,
        .ofQuery "select" q]
      match (e j.calls.length q).bind (Page.countedTotal b.config.naming) with
      | .error err => (.error err, ⟨j.calls ++ [q], events⟩)
      | .ok total => (.ok ⟨total, []⟩, ⟨j.calls ++ [q], events ++ [.counted total]⟩) := by
  unfold complete
  rw [Run.on_bind, Run.on_built, h]
  show (Run.report _ >>= _).on j = _
  rw [Run.on_bind, Run.on_report]
  dsimp only
  rw [Run.on_bind, Run.on_send]
  cases ha : e j.calls.length q with
  | error err => simp [Except.bind]
  | ok answer =>
    dsimp only
    rw [Run.on_bind, Run.on_lift]
    cases ht : Page.countedTotal b.config.naming answer with
    | error err => simp [Except.bind, ht]
    | ok total =>
      dsimp only
      rw [Run.on_bind, Run.on_report]
      simp [Except.bind, ht, Run.on_pure]

end Builder

end SqlCompose
