import SqlCompose.Proofs.Execution.Mode
import SqlCompose.Proofs.Statement.Inversion

/-!
# The round trips of a run

How often a run calls the executor and with what (`runIn_roundTrips`). A statement that cannot be
built is never sent. One that can is sent first, and only an empty page is followed by a second
statement, which counts the rows. The count is written after the first answer; it can be, because
the statement could (`exists_compileCount`).
-/

namespace SqlCompose

namespace Mode

theorem completes_nil {m : Mode} {s : Statement} :
    m.completes s [] = true ↔ s.hasWindowTotal = true ∧ m ≠ .value := by
  simp [completes]

end Mode

namespace Builder

/-- What a run in a mode ends with. -/
def outcome (b : Builder) (e : Executor) (m : Mode) : Except RunError m.Result :=
  ((b.runIn e m).on {}).1

/-- What a run in a mode has sent and reported. -/
def journal (b : Builder) (e : Executor) (m : Mode) : Journal := ((b.runIn e m).on {}).2

variable {b : Builder} {e : Executor} {m : Mode}

theorem build_eq_ok {q : Query} (h : b.build = .ok q) : b.statement.compile b.config = .ok q := by
  unfold build at h
  split at h
  · cases h
  · exact h

theorem isSelect_of_hasWindowTotal {s : Statement} (h : s.hasWindowTotal = true) :
    s.command = .select := by
  have hs : s.command.isSelect = true := by
    unfold Statement.hasWindowTotal at h
    exact (Bool.and_eq_true_iff.mp h).2
  cases hc : s.command with
  | select => rfl
  | insert as => simp [hc, Command.isSelect] at hs
  | update as => simp [hc, Command.isSelect] at hs
  | delete => simp [hc, Command.isSelect] at hs

theorem runIn_on_error {err : BuildError} (h : b.build = .error err) (j : Journal) :
    (b.runIn e m).on j = (.error (.build err), j) := by
  rw [runIn_eq, Run.on_bind, sendStatement_on_error b e j h]

/-- The journal once the statement has been sent. -/
def sent (b : Builder) (q : Query) : Journal :=
  ⟨[q], [.ofQuery b.statement.command.name q]⟩

theorem runIn_on_ok {q : Query} (h : b.build = .ok q) :
    (b.runIn e m).on {} = match e 0 q with
      | .error err => (.error err, b.sent q)
      | .ok rows => (b.resolve e m rows).on (b.sent q) := by
  rw [runIn_eq, Run.on_bind, sendStatement_on_ok b e {} h]
  have h0 : e ({} : Journal).calls.length q = e 0 q := rfl
  rw [h0]
  cases e 0 q <;> rfl

theorem resolve_on_of_completes {rows : List Row} (h : m.completes b.statement rows = true)
    (j : Journal) : (b.resolve e m rows).on j =
      (((b.complete e rows).on j).1.map (b.ofPage m), ((b.complete e rows).on j).2) := by
  unfold resolve
  rw [if_pos h, Run.on_map]

/-- Rows are resolved without a further call. -/
theorem calls_resolve_cons (row : Row) (rows : List Row) (j : Journal) :
    ((b.resolve e m (row :: rows)).on j).2.calls = j.calls := by
  cases hc : m.completes b.statement (row :: rows) with
  | false =>
    rw [resolve_of_not_completes hc]
    rfl
  | true =>
    rw [resolve_on_of_completes hc, complete_cons_on]
    cases Page.ofRows b.config.naming row rows <;> rfl

/-- A page without rows makes one further call, and is not resolved if that fails. -/
theorem resolve_nil_on {q : Query} (h : m.completes b.statement [] = true)
    (hq : b.statement.compileCount b.config = .ok q) (j : Journal) :
    ((b.resolve e m []).on j).2.calls = j.calls ++ [q] ∧
      ∀ err, e j.calls.length q = .error err → ((b.resolve e m []).on j).1 = .error err := by
  rw [resolve_on_of_completes h, complete_nil_on b e j hq]
  dsimp only
  constructor
  · split <;> rfl
  · intro err he
    rw [he]
    rfl

/-- The calls of a run. Without a built statement there are none, and its error is the outcome. With
one it is the first call, and a failure is the outcome. An answer without rows to a statement that
carries the number of all rows is followed by the count of its rows, except where a single value is
asked for; a failure of that call is the outcome too. There are no other calls. -/
theorem runIn_roundTrips (b : Builder) (e : Executor) (m : Mode) :
    match b.build with
    | .error err => b.outcome e m = .error (.build err) ∧ (b.journal e m).calls = []
    | .ok q =>
      match e 0 q with
      | .error err => b.outcome e m = .error err ∧ (b.journal e m).calls = [q]
      | .ok rows =>
        if b.statement.hasWindowTotal = true ∧ rows = [] ∧ m ≠ .value then
          ∃ count, b.statement.compileCount b.config = .ok count ∧
            (b.journal e m).calls = [q, count] ∧
            ∀ err, e 1 count = .error err → b.outcome e m = .error err
        else (b.journal e m).calls = [q] := by
  unfold outcome journal
  cases hb : b.build with
  | error err =>
    rw [runIn_on_error hb]
    exact ⟨rfl, rfl⟩
  | ok q =>
    dsimp only
    rw [runIn_on_ok hb]
    cases ha : e 0 q with
    | error err => exact ⟨rfl, rfl⟩
    | ok rows =>
      dsimp only
      cases rows with
      | cons row rows =>
        rw [if_neg (by simp), calls_resolve_cons]
        rfl
      | nil =>
        split
        · rename_i hc
          obtain ⟨hw, -, hm⟩ := hc
          obtain ⟨count, hcount⟩ := Statement.exists_compileCount (isSelect_of_hasWindowTotal hw)
            (build_eq_ok hb)
          have hr := resolve_nil_on (e := e) (Mode.completes_nil.mpr ⟨hw, hm⟩) hcount (b.sent q)
          exact ⟨count, hcount, hr.1, hr.2⟩
        · rename_i hc
          have hn : m.completes b.statement [] = false := by
            rw [← Bool.not_eq_true, Mode.completes_nil]
            exact fun h => hc ⟨h.1, rfl, h.2⟩
          rw [resolve_of_not_completes hn]
          rfl

end Builder

end SqlCompose
