import SqlCompose.Proofs.Execution.RoundTrip
import SqlCompose.Proofs.Page
import SqlCompose.Proofs.Text.Cut

/-!
# The log of a run

A run takes one of five courses, which fix what it ends with, what it sends and what it reports
(`Builder.course`): the statement cannot be built; it is refused; the rows of the answer are no
page; they are a page; or they are a page without rows, and the rows that match are counted. What
the log has to do with the calls is read off the courses (`Builder.log_matches_calls`).
-/

namespace SqlCompose

namespace Event

/-- Is the event the report of a statement that a command sends? It names the command, and it has
the number of parameters and the text, of which only what fits in 200 bytes is shown. -/
inductive Reports (command : String) (q : Query) : Event → Prop where
  | whole (h : q.sql.utf8ByteSize ≤ 200) :
      Reports command q (.statement command q.params.length q.sql)
  | shortened {front : String} (h : 200 < q.sql.utf8ByteSize)
      (hf : Text.LongestFit 200 q.sql front) :
      Reports command q (.statement command q.params.length (front ++ "..."))

theorem reports_ofQuery (command : String) (q : Query) :
    Reports command q (ofQuery command q) := by
  unfold ofQuery Text.shorten
  split
  · rename_i h
    exact .whole h
  · rename_i h
    exact .shortened (Nat.lt_of_not_le h) (Text.longestFit_cut maxSqlBytes q.sql)

/-- Is the event the report of a known total? -/
inductive Traces (total : Int) : Event → Prop where
  | counted : Traces total (.counted total)
  | complete (items : Nat) : Traces total (.complete total items)

theorem Traces.unique {total total' : Int} {event : Event} (h : event.Traces total)
    (h' : event.Traces total') : total = total' := by
  cases h <;> cases h' <;> rfl

theorem exists_traces_iff {event : Event} :
    (∃ total, event.Traces total) ↔ event.topic = .page ∧ event.level = .trace := by
  constructor
  · rintro ⟨total, _ | _⟩ <;> exact ⟨rfl, rfl⟩
  · rintro ⟨ht, hl⟩
    cases event with
    | statement => cases ht
    | emptyPage => cases hl
    | counted total => exact ⟨total, .counted⟩
    | complete total items => exact ⟨total, .complete items⟩

end Event

namespace Journal

/-- The reports of statements. -/
def statements (j : Journal) : List Event := j.events.filter (·.topic = .sql)

/-- What the reports are about, and how much they matter. -/
def kinds (j : Journal) : List (Topic × Level) :=
  j.events.map fun event => (event.topic, event.level)

/-- Is the event at `i` the report of the `n`th call? It reports a statement, and `n` statements are
reported before it. -/
def ReportsAt (j : Journal) (i n : Nat) : Prop :=
  j.kinds[i]? = some (.sql, .debug) ∧ (j.kinds.take i).count (.sql, .debug) = n

/-- The kinds of the reports of a run, for all courses that it may take. -/
def courseKinds : List (List (Topic × Level)) :=
  [[], [(.sql, .debug)], [(.sql, .debug), (.page, .trace)],
    [(.sql, .debug), (.page, .debug), (.sql, .debug)],
    [(.sql, .debug), (.page, .debug), (.sql, .debug), (.page, .trace)]]

variable {j : Journal} (h : j.kinds ∈ courseKinds)

include h

theorem length_kinds_le : j.kinds.length ≤ 4 := by
  have hl : ∀ kinds ∈ courseKinds, kinds.length ≤ 4 := by decide
  exact hl j.kinds h

theorem debug_iff (i : Nat) : j.kinds[i]? = some (.page, .debug) ↔ j.ReportsAt (i + 1) 1 := by
  have hd : ∀ kinds ∈ courseKinds, ∀ i < 4, kinds[i]? = some (.page, .debug) ↔
      kinds[i + 1]? = some (.sql, .debug) ∧ (kinds.take (i + 1)).count (.sql, .debug) = 1 := by
    decide
  by_cases hi : i < 4
  · exact hd j.kinds h i hi
  · have hl := length_kinds_le h
    unfold ReportsAt
    rw [List.getElem?_eq_none (by omega), List.getElem?_eq_none (by omega)]
    simp

theorem trace_last {i : Nat} (hi : j.kinds[i]? = some (.page, .trace)) :
    i + 1 = j.events.length := by
  have ht : ∀ kinds ∈ courseKinds, ∀ i < 4, kinds[i]? = some (.page, .trace) →
      i + 1 = kinds.length := by
    decide
  have hl := length_kinds_le h
  have hlt := (List.getElem?_eq_some_iff.mp hi).1
  rw [ht j.kinds h i (by omega) hi]
  exact List.length_map _

end Journal

theorem Mode.completes_iff {m : Mode} {s : Statement} {rows : List Row} :
    m.completes s rows = true ↔ s.hasWindowTotal = true ∧ (m = .value → rows ≠ []) := by
  cases rows <;> simp [completes]

namespace Builder

/-! ## Courses -/

/-- What is reported last of a page: its total, if it is complete. -/
inductive Closes : Except RunError Page → List Event → Prop where
  | failed (err : RunError) : Closes (.error err) []
  | complete {page : Page} {event : Event} (h : event.Traces page.total) :
      Closes (.ok page) [event]

/-- The courses of a run in a mode, with what it ends with and what it has sent and reported. -/
inductive Course (b : Builder) (e : Executor) (m : Mode) :
    Except RunError m.Result → Journal → Prop where
  | unbuilt {err : BuildError} (hb : b.build = .error err) :
      Course b e m (.error (.build err)) {}
  | refused {q : Query} {err : RunError} (hb : b.build = .ok q) (ha : e 0 q = .error err) :
      Course b e m (.error err) (b.sent q)
  | plain {q : Query} {rows : List Row} (hb : b.build = .ok q) (ha : e 0 q = .ok rows)
      (hm : m.completes b.statement rows = false) :
      Course b e m (.ok (b.ofRows m rows)) (b.sent q)
  | filled {q : Query} {row : Row} {rows : List Row} {page : Except RunError Page}
      {closing : List Event} (hb : b.build = .ok q) (ha : e 0 q = .ok (row :: rows))
      (hm : m.completes b.statement (row :: rows) = true)
      (hp : ((b.complete e (row :: rows)).on (b.sent q)).1 = page) (hc : Closes page closing) :
      Course b e m (page.map (b.ofPage m))
        ⟨[q], .ofQuery b.statement.command.name q :: closing⟩
  | counted {q count : Query} {page : Except RunError Page} {closing : List Event}
      (hb : b.build = .ok q) (ha : e 0 q = .ok []) (hm : m.completes b.statement [] = true)
      (hq : b.statement.compileCount b.config = .ok count)
      (hp : ((b.complete e []).on (b.sent q)).1 = page) (hc : Closes page closing) :
      Course b e m (page.map (b.ofPage m))
        ⟨[q, count], .ofQuery b.statement.command.name q ::
          .emptyPage b.statement.offset b.statement.limit :: .ofQuery "select" count :: closing⟩

variable {b : Builder} {e : Executor} {m : Mode}

theorem closes_complete_cons (row : Row) (rows : List Row) (j : Journal) :
    ∃ closing, Closes ((b.complete e (row :: rows)).on j).1 closing ∧
      ((b.complete e (row :: rows)).on j).2 = ⟨j.calls, j.events ++ closing⟩ := by
  rw [complete_cons_on]
  cases Page.ofRows b.config.naming row rows with
  | error err => exact ⟨[], .failed err, by rw [List.append_nil]⟩
  | ok page => exact ⟨_, .complete (.complete page.items.length), rfl⟩

theorem closes_complete_nil {count : Query}
    (hq : b.statement.compileCount b.config = .ok count) (j : Journal) :
    ∃ closing, Closes ((b.complete e []).on j).1 closing ∧
      ((b.complete e []).on j).2 = ⟨j.calls ++ [count], j.events ++
        .emptyPage b.statement.offset b.statement.limit :: .ofQuery "select" count :: closing⟩ := by
  rw [complete_nil_on b e j hq]
  dsimp only
  cases (e j.calls.length count).bind (Page.countedTotal b.config.naming) with
  | error err => exact ⟨[], .failed err, rfl⟩
  | ok total =>
    refine ⟨[.counted total], .complete .counted, ?_⟩
    simp only [List.append_assoc, List.cons_append, List.nil_append]

/-- Every run takes one of the courses. -/
theorem course (b : Builder) (e : Executor) (m : Mode) :
    b.Course e m (b.outcome e m) (b.journal e m) := by
  unfold outcome journal
  cases hb : b.build with
  | error err =>
    rw [runIn_on_error hb]
    exact .unbuilt hb
  | ok q =>
    rw [runIn_on_ok hb]
    cases ha : e 0 q with
    | error err => exact .refused hb ha
    | ok rows =>
      dsimp only
      cases hm : m.completes b.statement rows with
      | false =>
        rw [resolve_of_not_completes hm]
        exact .plain hb ha hm
      | true =>
        rw [resolve_on_of_completes hm]
        cases rows with
        | cons row rows =>
          obtain ⟨closing, hc, hj⟩ := closes_complete_cons (b := b) (e := e) row rows (b.sent q)
          rw [hj]
          exact .filled hb ha hm rfl hc
        | nil =>
          obtain ⟨count, hq⟩ := Statement.exists_compileCount
            (isSelect_of_hasWindowTotal (Mode.completes_iff.mp hm).1) (build_eq_ok hb)
          obtain ⟨closing, hc, hj⟩ := closes_complete_nil (e := e) hq (b.sent q)
          rw [hj]
          exact .counted hb ha hm hq rfl hc

/-! ## Pages -/

/-- Does a run in the mode `m` complete the page? The rows carry the number of all rows, the
statement is built and answered, for a single value by some row, and the answer is completed. -/
def Completed (b : Builder) (e : Executor) (m : Mode) (page : Page) : Prop :=
  b.statement.hasWindowTotal = true ∧ ∃ q rows, b.build = .ok q ∧ e 0 q = .ok rows ∧
    (m = .value → rows ≠ []) ∧ ((b.complete e rows).on (b.sent q)).1 = .ok page

theorem completed_iff {q : Query} {rows : List Row} (hb : b.build = .ok q) (ha : e 0 q = .ok rows)
    {page : Page} : b.Completed e m page ↔
      m.completes b.statement rows = true ∧ ((b.complete e rows).on (b.sent q)).1 = .ok page := by
  unfold Completed
  rw [Mode.completes_iff]
  constructor
  · rintro ⟨hw, q', rows', hb', ha', hm, hp⟩
    obtain rfl : q = q' := Except.ok.inj (hb.symm.trans hb')
    obtain rfl : rows = rows' := Except.ok.inj (ha.symm.trans ha')
    exact ⟨⟨hw, hm⟩, hp⟩
  · rintro ⟨⟨hw, hm⟩, hp⟩
    exact ⟨hw, q, rows, hb, ha, hm, hp⟩

theorem Completed.unique {page page' : Page} (h : b.Completed e m page)
    (h' : b.Completed e m page') : page = page' := by
  obtain ⟨-, q, rows, hb, ha, -, hp⟩ := h
  exact Except.ok.inj (hp.symm.trans ((completed_iff hb ha).mp h').2)

theorem decode_of_complete_cons {row : Row} {rows : List Row} {j : Journal} {err : RunError}
    (h : ((b.complete e (row :: rows)).on j).1 = .error err) :
    ∃ key message, err = .decode key message := by
  rw [complete_cons_on] at h
  cases hp : Page.ofRows b.config.naming row rows with
  | error err' =>
    rw [hp] at h
    cases h
    exact Page.decode_of_map_totalOfRow hp
  | ok page =>
    rw [hp] at h
    cases h

theorem error_of_complete_nil {count : Query} (hq : b.statement.compileCount b.config = .ok count)
    {j : Journal} {err : RunError} (h : ((b.complete e []).on j).1 = .error err) :
    e j.calls.length count = .error err ∨ ∃ key message, err = .decode key message := by
  rw [complete_nil_on b e j hq] at h
  dsimp only at h
  cases ha : e j.calls.length count with
  | error err' =>
    rw [ha] at h
    cases h
    exact .inl rfl
  | ok answer =>
    rw [ha] at h
    cases ht : Page.countedTotal b.config.naming answer with
    | error err' =>
      simp only [Except.bind, ht] at h
      cases h
      exact .inr (Page.decode_of_countedTotal ht)
    | ok total =>
      simp only [Except.bind, ht] at h
      cases h

/-! ## Endings -/

/-- A run in a mode ends with the report of a total if it completes a page, and then its result is
that of the page. If it completes none, no total is reported. -/
inductive Ending (b : Builder) (e : Executor) (m : Mode) :
    Except RunError m.Result → List Event → Prop where
  | silent {result : Except RunError m.Result} {events : List Event}
      (ho : ∀ event ∈ events, event.level = .debug) (hn : ∀ page, ¬ b.Completed e m page) :
      Ending b e m result events
  | total {opening : List Event} {page : Page} {event : Event}
      (ho : ∀ event ∈ opening, event.level = .debug) (ht : event.Traces page.total)
      (hp : b.Completed e m page) : Ending b e m (.ok (b.ofPage m page)) (opening ++ [event])

theorem ending_of_closes {opening closing : List Event} {page : Except RunError Page}
    (ho : ∀ event ∈ opening, event.level = .debug)
    (hp : ∀ p, b.Completed e m p ↔ page = .ok p) (hc : Closes page closing) :
    b.Ending e m (page.map (b.ofPage m)) (opening ++ closing) := by
  cases hc with
  | failed err =>
    rw [List.append_nil]
    refine .silent ho fun page hn => ?_
    cases (hp page).mp hn
  | complete ht => exact .total ho ht ((hp _).mpr rfl)

namespace Ending

variable {result : Except RunError m.Result} {events : List Event}

theorem trace_iff (h : b.Ending e m result events) (total : Int) :
    (∃ event, events.getLast? = some event ∧ event.Traces total) ↔
      ∃ page, b.Completed e m page ∧ page.total = total := by
  cases h with
  | silent ho hn =>
    constructor
    · rintro ⟨event, he, ht⟩
      cases (Event.exists_traces_iff.mp ⟨total, ht⟩).2.symm.trans
        (ho event (List.mem_of_getLast? he))
    · rintro ⟨page, hp, -⟩
      exact absurd hp (hn page)
  | @total opening page last ho ht hp =>
    rw [List.getLast?_concat]
    constructor
    · rintro ⟨event, he, ht'⟩
      cases he
      exact ⟨page, hp, ht.unique ht'⟩
    · rintro ⟨page', hp', rfl⟩
      rw [hp.unique hp'] at ht
      exact ⟨last, rfl, ht⟩

theorem result_of_completed (h : b.Ending e m result events) {page : Page}
    (hp : b.Completed e m page) : result = .ok (b.ofPage m page) := by
  cases h with
  | silent ho hn => exact absurd hp (hn page)
  | total ho ht hp' => rw [hp.unique hp']

end Ending

/-! ## What is read off a course -/

/-- The command that the `n`th call of a run is reported under. A second call counts rows. -/
def commandName (b : Builder) : Nat → String
  | 0 => b.statement.command.name
  | _ + 1 => "select"

namespace Course

variable {result : Except RunError m.Result} {j : Journal}

theorem calls (h : b.Course e m result j) :
    j.calls.length ≤ 2 ∧ (∀ q, j.calls[0]? = some q → b.build = .ok q) ∧
      ∀ q, j.calls[1]? = some q → b.statement.compileCount b.config = .ok q := by
  cases h with
  | unbuilt hb => simp
  | refused hb ha => simp [sent, hb]
  | plain hb ha hm => simp [sent, hb]
  | filled hb ha hm hp hc => simp [hb]
  | counted hb ha hm hq hp hc => simp [hb, hq]

theorem statements_eq (h : b.Course e m result j) :
    j.statements = j.calls.mapIdx fun n q => .ofQuery (b.commandName n) q := by
  cases h with
  | unbuilt hb => rfl
  | refused hb ha => rfl
  | plain hb ha hm => rfl
  | filled hb ha hm hp hc => rcases hc with _ | _ | _ <;> rfl
  | counted hb ha hm hq hp hc => rcases hc with _ | _ | _ <;> rfl

theorem reports (h : b.Course e m result j) :
    j.statements.length = j.calls.length ∧ ∀ n q (event : Event), j.calls[n]? = some q →
      j.statements[n]? = some event → event.Reports (b.commandName n) q := by
  rw [h.statements_eq]
  refine ⟨List.length_mapIdx, fun n q event hq he => ?_⟩
  rw [List.getElem?_mapIdx, hq] at he
  cases he
  exact Event.reports_ofQuery (b.commandName n) q

theorem kinds_mem (h : b.Course e m result j) : j.kinds ∈ Journal.courseKinds := by
  cases h with
  | unbuilt hb => exact .head _
  | refused hb ha => exact .tail _ (.head _)
  | plain hb ha hm => exact .tail _ (.head _)
  | filled hb ha hm hp hc =>
    rcases hc with _ | _ | _
    · exact .tail _ (.head _)
    · exact .tail _ (.tail _ (.head _))
    · exact .tail _ (.tail _ (.head _))
  | counted hb ha hm hq hp hc =>
    rcases hc with _ | _ | _
    · exact .tail _ (.tail _ (.tail _ (.head _)))
    · exact .tail _ (.tail _ (.tail _ (.tail _ (.head _))))
    · exact .tail _ (.tail _ (.tail _ (.tail _ (.head _))))

theorem ending (h : b.Course e m result j) : b.Ending e m result j.events := by
  have hq (q : Query) : ∀ event ∈ [Event.ofQuery b.statement.command.name q],
      event.level = .debug := by
    simp [Event.level, Event.ofQuery]
  cases h with
  | unbuilt hb =>
    refine .silent (by simp) ?_
    rintro page ⟨-, q, rows, hb', -⟩
    cases hb.symm.trans hb'
  | @refused q err hb ha =>
    refine .silent (hq q) ?_
    rintro page ⟨-, q', rows, hb', ha', -⟩
    obtain rfl : q = q' := Except.ok.inj (hb.symm.trans hb')
    cases ha.symm.trans ha'
  | @plain q rows hb ha hm =>
    refine .silent (hq q) fun page hp => ?_
    rw [completed_iff hb ha, hm] at hp
    cases hp.1
  | @filled q row rows page closing hb ha hm hp hc =>
    refine ending_of_closes (hq q) (fun p => ?_) hc
    rw [completed_iff hb ha, hp]
    exact and_iff_right hm
  | @counted q count page closing hb ha hm hn hp hc =>
    have ho : ∀ event ∈ [Event.ofQuery b.statement.command.name q,
        .emptyPage b.statement.offset b.statement.limit, .ofQuery "select" count],
        event.level = .debug := by
      simp [Event.level, Event.ofQuery]
    refine ending_of_closes ho (fun p => ?_) hc
    rw [completed_iff hb ha, hp]
    exact and_iff_right hm

/-- Rows that carry the number of all rows give no result but by a page, apart from a single value,
which is none without any row. -/
theorem exists_completed (h : b.Course e m result j) {r : m.Result} (hr : result = .ok r)
    (hw : b.statement.hasWindowTotal = true) (hv : m ≠ .value) : ∃ page, b.Completed e m page := by
  cases h with
  | unbuilt hb => cases hr
  | refused hb ha => cases hr
  | @plain q rows hb ha hm =>
    have hc : m.completes b.statement rows = true :=
      Mode.completes_iff.mpr ⟨hw, fun h => absurd h hv⟩
    cases hm.symm.trans hc
  | filled hb ha hm hp hc =>
    cases hc with
    | failed err => cases hr
    | complete ht => exact ⟨_, (completed_iff hb ha).mpr ⟨hm, hp⟩⟩
  | counted hb ha hm hq hp hc =>
    cases hc with
    | failed err => cases hr
    | complete ht => exact ⟨_, (completed_iff hb ha).mpr ⟨hm, hp⟩⟩

theorem of_build_error (h : b.Course e m result j) {err : BuildError}
    (hr : result = .error (.build err)) :
    j.events = [] ∨ ∃ n q, j.calls[n]? = some q ∧ e n q = .error (.build err) := by
  cases h with
  | unbuilt hb => exact .inl rfl
  | @refused q _ hb ha =>
    cases hr
    exact .inr ⟨0, q, rfl, ha⟩
  | plain hb ha hm => cases hr
  | filled hb ha hm hp hc =>
    cases hc with
    | complete ht => cases hr
    | failed err' =>
      obtain ⟨key, message, rfl⟩ := decode_of_complete_cons hp
      cases hr
  | @counted q count page closing hb ha hm hq hp hc =>
    cases hc with
    | complete ht => cases hr
    | failed err' =>
      obtain rfl : err' = .build err := Except.error.inj hr
      rcases error_of_complete_nil hq hp with he | ⟨key, message, he⟩
      · exact .inr ⟨1, count, rfl, he⟩
      · cases he

end Course

theorem unbuilt_run {err : BuildError} (hb : b.build = .error err) :
    b.outcome e m = .error (.build err) ∧ b.journal e m = {} := by
  unfold outcome journal
  rw [runIn_on_error hb]
  exact ⟨rfl, rfl⟩

/-- The log of a run. There are at most two calls, the statement and a count of its rows. Each has
its report, in the order of the calls and with the command it is reported under. That a page is
empty is reported directly before the report of the second call and nowhere else. A total is
reported last or not at all, and it is reported if and only if a page is completed that has it; the
result is then that of the page, and there is no other result where rows carry the number of all
rows, unless a single value is asked for. A run that cannot build its statement ends with that error
and neither sends nor reports, and a run ends with a build error in no other way, unless an answer
of the executor is one. -/
theorem log_matches_calls (b : Builder) (e : Executor) (m : Mode) :
    let j := b.journal e m
    (j.calls.length ≤ 2 ∧ (∀ q, j.calls[0]? = some q → b.build = .ok q) ∧
      ∀ q, j.calls[1]? = some q → b.statement.compileCount b.config = .ok q) ∧
    (j.statements.length = j.calls.length ∧ ∀ n q (event : Event), j.calls[n]? = some q →
      j.statements[n]? = some event → event.Reports (b.commandName n) q) ∧
    (∀ i, j.kinds[i]? = some (.page, .debug) ↔ j.ReportsAt (i + 1) 1) ∧
    (∀ i, j.kinds[i]? = some (.page, .trace) → i + 1 = j.events.length) ∧
    (∀ total, (∃ event, j.events.getLast? = some event ∧ event.Traces total) ↔
      ∃ page, b.Completed e m page ∧ page.total = total) ∧
    (∀ page, b.Completed e m page → b.outcome e m = .ok (b.ofPage m page)) ∧
    (∀ r, b.outcome e m = .ok r → b.statement.hasWindowTotal = true → m ≠ .value →
      ∃ page, b.Completed e m page) ∧
    (∀ err, b.build = .error err → b.outcome e m = .error (.build err) ∧ j = {}) ∧
    ∀ err, b.outcome e m = .error (.build err) →
      j.events = [] ∨ ∃ n q, j.calls[n]? = some q ∧ e n q = .error (.build err) := by
  intro j
  have h : b.Course e m (b.outcome e m) j := b.course e m
  exact ⟨h.calls, h.reports, Journal.debug_iff h.kinds_mem,
    fun i hi => Journal.trace_last h.kinds_mem hi, h.ending.trace_iff,
    fun page hp => h.ending.result_of_completed hp, fun r hr hw hv => h.exists_completed hr hw hv,
    fun err hb => unbuilt_run hb, fun err hr => h.of_build_error hr⟩

example : (((ofTable {} "users").applyAll [.paginated ⟨20, some 10⟩]).journal
      (.scripted [.ok [], .ok [Row.ofList [("count", .string "7")]]]) .page).events =
    [.statement "select" 0 "SELECT *, COUNT(*) OVER() AS total FROM users OFFSET 20 LIMIT 10",
      .emptyPage 20 (some 10), .statement "select" 0 "SELECT count(*) AS count FROM users",
      .counted 7] := by
  decide +kernel

end Builder

end SqlCompose
