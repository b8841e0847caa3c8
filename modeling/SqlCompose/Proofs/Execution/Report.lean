import SqlCompose.Proofs.Execution.RoundTrip

/-!
# What a run reports

The events of a run, from the built statement and the answers of the executor (`events_journal`).
-/

namespace SqlCompose.Builder

variable {b : Builder} {e : Executor} {m : Mode}

/-- What is reported of the answer to a count. -/
def countedEvents (naming : Naming) (answer : Except RunError (List Row)) : List Event :=
  match answer.bind (Page.countedTotal naming) with
  | .error _ => []
  | .ok total => [.counted total]

/-- What is reported once a page without rows is to be completed. -/
def countEvents (b : Builder) (e : Executor) : List Event :=
  match b.statement.compileCount b.config with
  | .error _ => []
  | .ok count => .emptyPage b.statement.offset b.statement.limit :: .ofQuery "select" count ::
      countedEvents b.config.naming (e 1 count)

/-- What is reported of a page with rows. -/
def pageEvents (naming : Naming) (row : Row) (rows : List Row) : List Event :=
  match Page.ofRows naming row rows with
  | .error _ => []
  | .ok page => [.complete page.total page.items.length]

/-- What is reported once the statement is answered. -/
def answerEvents (b : Builder) (e : Executor) (m : Mode) (rows : List Row) : List Event :=
  if m.completes b.statement rows then
    match rows with
    | [] => b.countEvents e
    | row :: rows => pageEvents b.config.naming row rows
  else []

theorem events_complete_nil (q : Query) :
    ((b.complete e []).on (b.sent q)).2.events = (b.sent q).events ++ b.countEvents e := by
  unfold countEvents
  cases hq : b.statement.compileCount b.config with
  | error err =>
    rw [complete_nil_on_error b e (b.sent q) hq]
    exact (List.append_nil _).symm
  | ok count =>
    rw [complete_nil_on b e (b.sent q) hq]
    have h1 : e (b.sent q).calls.length count = e 1 count := rfl
    rw [h1]
    dsimp only
    unfold countedEvents
    cases (e 1 count).bind (Page.countedTotal b.config.naming) with
    | error err => rfl
    | ok total => simp only [List.append_assoc, List.cons_append, List.nil_append]

theorem events_complete_cons (row : Row) (rows : List Row) (j : Journal) :
    ((b.complete e (row :: rows)).on j).2.events =
      j.events ++ pageEvents b.config.naming row rows := by
  rw [complete_cons_on]
  unfold pageEvents
  cases Page.ofRows b.config.naming row rows with
  | error err => exact (List.append_nil _).symm
  | ok page => rfl

theorem events_resolve (rows : List Row) (q : Query) :
    ((b.resolve e m rows).on (b.sent q)).2.events =
      (b.sent q).events ++ b.answerEvents e m rows := by
  unfold answerEvents
  cases hc : m.completes b.statement rows with
  | false =>
    rw [resolve_of_not_completes hc]
    exact (List.append_nil _).symm
  | true =>
    rw [resolve_on_of_completes hc, if_pos rfl]
    cases rows with
    | nil => exact events_complete_nil q
    | cons row rows => exact events_complete_cons row rows (b.sent q)

/-- A statement that cannot be built is not reported. One that can is, and then what its answer
leads to. -/
theorem events_journal (b : Builder) (e : Executor) (m : Mode) :
    (b.journal e m).events = match b.build with
      | .error _ => []
      | .ok q => .ofQuery b.statement.command.name q :: match e 0 q with
        | .error _ => []
        | .ok rows => b.answerEvents e m rows := by
  unfold journal
  cases hb : b.build with
  | error err =>
    rw [runIn_on_error hb]
  | ok q =>
    rw [runIn_on_ok hb]
    dsimp only
    cases e 0 q with
    | error err => rfl
    | ok rows => exact events_resolve rows q

end SqlCompose.Builder
