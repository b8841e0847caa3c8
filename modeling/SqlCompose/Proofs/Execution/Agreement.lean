import SqlCompose.Proofs.Execution.RoundTrip

/-!
# The modes agree

What a run in one mode has to do with a run in another. With the number of all rows in the rows,
every mode reads its result off the page (`runIn_eq_ofPage`); without it, off the rows as they are
(`runIn_eq_ofRows`). A single value is the exception: if no rows come back, it is none at once,
and the rows that match are not counted.
-/

namespace SqlCompose.Builder

variable {b : Builder} {e : Executor}

/-- Run in the mode `m`, the builder ends with `f` of what it ends with in the mode `n`, or with
the same failure, and sends and reports the same. -/
structure Agrees (b : Builder) (e : Executor) (m n : Mode) (f : n.Result → m.Result) : Prop where
  outcome : b.outcome e m = (b.outcome e n).map f
  journal : b.journal e m = b.journal e n

theorem agrees_of_runIn_eq {m n : Mode} {f : n.Result → m.Result}
    (h : b.runIn e m = f <$> b.runIn e n) : b.Agrees e m n f := by
  have ho := congrArg (Run.on · {}) h
  simp only [Run.on_map] at ho
  exact ⟨congrArg Prod.fst ho, congrArg Prod.snd ho⟩

/-! ## With the number of all rows -/

/-- A mode that completes every page reads its result off the page. -/
theorem runIn_eq_ofPage (hw : b.statement.hasWindowTotal = true) {m : Mode} (hm : m ≠ .value) :
    b.runIn e m = b.ofPage m <$> (b.sendStatement e >>= b.complete e) := by
  rw [runIn_eq b e m, map_bind]
  refine bind_congr fun rows => ?_
  unfold resolve
  rw [if_pos ((Mode.completes_of_ne_value hm b.statement rows).trans hw)]

theorem runIn_page (hw : b.statement.hasWindowTotal = true) :
    b.runIn e .page = b.sendStatement e >>= b.complete e :=
  (runIn_eq_ofPage hw (by decide)).trans (id_map _)

theorem agrees_page (hw : b.statement.hasWindowTotal = true) {m : Mode} (hm : m ≠ .value) :
    b.Agrees e m .page (b.ofPage m) :=
  agrees_of_runIn_eq ((runIn_eq_ofPage hw hm).trans (congrArg (b.ofPage m <$> ·) (runIn_page hw).symm))

/-- A single value is read off the page too, once there are rows. -/
theorem agrees_page_value (hw : b.statement.hasWindowTotal = true) {q : Query} {row : Row}
    {rows : List Row} (hq : b.build = .ok q) (ha : e 0 q = .ok (row :: rows)) :
    b.Agrees e .value .page (b.ofPage .value) := by
  have hc : ∀ m : Mode, m.completes b.statement (row :: rows) = true := by
    intro m
    simp [Mode.completes, hw]
  constructor
  · unfold outcome
    rw [runIn_on_ok hq, runIn_on_ok hq, ha]
    dsimp only
    rw [resolve_on_of_completes (hc .value), resolve_on_of_completes (hc .page)]
    cases ((b.complete e (row :: rows)).on (b.sent q)).1 <;> rfl
  · unfold journal
    rw [runIn_on_ok hq, runIn_on_ok hq, ha]
    dsimp only
    rw [resolve_on_of_completes (hc .value), resolve_on_of_completes (hc .page)]

/-- No key is asked for where the rows carry the number of all rows. -/
theorem valueOf_of_hasWindowTotal (hw : b.statement.hasWindowTotal = true) :
    b.valueOf = Row.only? := by
  have hf : b.statement.first = none := by
    unfold Statement.hasWindowTotal at hw
    simp only [Bool.and_eq_true, Option.isNone_iff_eq_none] at hw
    exact hw.1.2
  funext r
  unfold valueOf
  rw [hf]

/-! ## Without it -/

theorem runIn_eq_ofRows (hw : b.statement.hasWindowTotal = false) (m : Mode) :
    b.runIn e m = b.ofRows m <$> b.sendStatement e := by
  rw [runIn_eq b e m, map_eq_pure_bind]
  refine bind_congr fun rows => ?_
  have hc : m.completes b.statement rows = false := by
    unfold Mode.completes
    rw [hw, Bool.false_and]
  exact resolve_of_not_completes hc

theorem runIn_rows (hw : b.statement.hasWindowTotal = false) :
    b.runIn e .rows = b.sendStatement e :=
  (runIn_eq_ofRows hw .rows).trans (id_map _)

theorem agrees_rows (hw : b.statement.hasWindowTotal = false) (m : Mode) :
    b.Agrees e m .rows (b.ofRows m) :=
  agrees_of_runIn_eq ((runIn_eq_ofRows hw m).trans (congrArg (b.ofRows m <$> ·) (runIn_rows hw).symm))

/-- What both modes read off the rows in the same way, they agree on. -/
theorem agrees_of_ofRows (hw : b.statement.hasWindowTotal = false) {m n : Mode}
    {f : n.Result → m.Result} (hf : ∀ rows, b.ofRows m rows = f (b.ofRows n rows)) :
    b.Agrees e m n f := by
  have hm := agrees_rows (e := e) hw m
  have hn := agrees_rows (e := e) hw n
  refine ⟨?_, hm.journal.trans hn.journal.symm⟩
  rw [hm.outcome, hn.outcome]
  cases b.outcome e .rows with
  | error err => rfl
  | ok rows => exact congrArg Except.ok (hf rows)

/-- The modes agree. If the rows carry the number of all rows, the output is the page, the rows
are those of the page, the first row is the first of them, and the value is that of its only
column, if there are rows at all. If they do not, the output is all rows, the first row or the
value, as the builder asked, and the page has all rows with their number. -/
theorem modes_agree (b : Builder) (e : Executor) :
    (b.statement.hasWindowTotal = true →
      b.Agrees e .output .page Output.page ∧
      b.Agrees e .rows .page Page.items ∧
      b.Agrees e .first .page (fun page => page.items.head?) ∧
      ∀ q row rows, b.build = .ok q → e 0 q = .ok (row :: rows) →
        b.Agrees e .value .page fun page => page.items.head?.bind Row.only?) ∧
    (b.statement.hasWindowTotal = false →
      (b.statement.first = none → b.Agrees e .output .rows Output.rows) ∧
      (b.statement.first = some .row → b.Agrees e .output .first Output.row) ∧
      (∀ key, b.statement.first = some (.value key) → b.Agrees e .output .value Output.value) ∧
      b.Agrees e .page .rows fun rows => ⟨rows.length, rows⟩) := by
  constructor
  · intro hw
    refine ⟨agrees_page hw (by decide), agrees_page hw (by decide), agrees_page hw (by decide), ?_⟩
    intro q row rows hq ha
    have h := agrees_page_value hw hq ha
    unfold ofPage at h
    rw [valueOf_of_hasWindowTotal hw] at h
    exact h
  · intro hw
    refine ⟨?_, ?_, ?_, agrees_rows hw .page⟩
    · intro hf
      refine agrees_of_ofRows hw fun rows => ?_
      show b.ofRows .output rows = Output.rows rows
      unfold ofRows
      rw [hf]
    · intro hf
      refine agrees_of_ofRows hw fun rows => ?_
      show b.ofRows .output rows = Output.row rows.head?
      unfold ofRows
      rw [hf]
    · intro key hf
      refine agrees_of_ofRows hw fun rows => ?_
      show b.ofRows .output rows = Output.value (rows.head?.bind b.valueOf)
      unfold ofRows valueOf
      rw [hf]

/-- The names of the users, ten on a page. -/
def pageOfNames : Builder :=
  (ofTable {} "users").applyAll [.select (.list ["name"]), .paginated ⟨0, some 10⟩]

/-- The first name of a user. -/
def firstName : Builder := (ofTable {} "users").applyAll [.firstValue "name"]

/-- Answers with one user, who is the only one. -/
def oneUser : Executor :=
  .scripted [.ok [.ofList [("name", .string "ada"), ("total", .string "1")]]]

theorem modes_agree_oneUser :
    pageOfNames.statement.hasWindowTotal = true ∧
      (∃ q row rows, pageOfNames.build = .ok q ∧ oneUser 0 q = .ok (row :: rows)) ∧
      pageOfNames.Agrees oneUser .output .page Output.page ∧
      pageOfNames.Agrees oneUser .value .page (fun page => page.items.head?.bind Row.only?) ∧
      pageOfNames.outcome oneUser .value = .ok (some (.string "ada")) ∧
      firstName.statement.hasWindowTotal = false ∧
      firstName.statement.first = some (.value "name") ∧
      firstName.Agrees oneUser .output .value Output.value := by
  obtain ⟨ho, -, -, hv⟩ := (modes_agree pageOfNames oneUser).1 rfl
  obtain ⟨-, -, hk, -⟩ := (modes_agree firstName oneUser).2 rfl
  have hq : pageOfNames.build = .ok
      ⟨"SELECT \"name\", COUNT(*) OVER() AS total FROM users LIMIT 10", []⟩ := rfl
  exact ⟨rfl, ⟨_, _, _, hq, rfl⟩, ho, hv _ _ _ hq rfl, rfl, rfl, rfl, hk "name" rfl⟩

end SqlCompose.Builder
