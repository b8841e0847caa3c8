import SqlCompose.Proofs.Execution.Agreement
import SqlCompose.Proofs.Failure
import SqlCompose.Proofs.Row

/-!
# Pages under the names of the caller

An executor may answer under the names of the caller. The column with the number of all rows then
arrives under another name, which is among those that are looked for (`callerName_mem_arrivals`).
As long as the other columns keep apart from it, the page is the same up to names
(`page_forCaller`).
-/

namespace SqlCompose

variable {naming : Naming} {column : String}

/-- In every pair of conventions the columns of totals arrive under a name that is looked for. -/
theorem callerName_mem_arrivals (naming : Naming) (h : column ∈ [Page.totalColumn, Page.countColumn]) :
    naming.callerName column ∈ naming.arrivals column := by
  rcases naming with ⟨database, caller⟩
  simp only [List.mem_cons, List.not_mem_nil, or_false] at h
  rcases h with rfl | rfl <;> cases database <;> cases caller <;> decide

/-- Does the row keep apart from the column under the names of the caller? Its own columns have
distinct names there, and only that of the column is one under which the column may arrive. -/
structure Row.KeepsApart (naming : Naming) (column : String) (r : Row) : Prop where
  distinct : (Entries.keys (r.callerEntries naming)).Nodup
  apart : ∀ k ∈ Entries.keys r.entries, k ≠ column →
    naming.callerName k ∉ naming.arrivals column

/-- Rows that keep apart from the column, which the first of them has. -/
structure Carries (naming : Naming) (column : String) (rows : List Row) : Prop where
  first : ∀ row ∈ rows.head?, row.contains column = true
  keepsApart : ∀ row ∈ rows, row.KeepsApart naming column

namespace Row

variable {r : Row}

theorem findName?_arrivals (h : r.contains column = true) :
    r.findName? (naming.arrivals column) = some column :=
  List.find?_cons_of_pos h

namespace KeepsApart

variable (h : r.KeepsApart naming column) (hc : naming.callerName column ∈ naming.arrivals column)
include h

theorem keys_forCaller : Entries.keys (r.forCaller naming).entries =
    (Entries.keys r.entries).map naming.callerName := by
  rw [entries_forCaller h.distinct]
  exact Entries.keys_rename naming.callerName r.entries

include hc

theorem callerName_ne : ∀ k ∈ Entries.keys r.entries, k ≠ column →
    naming.callerName k ≠ naming.callerName column :=
  fun k hk hn he => h.apart k hk hn (he ▸ hc)

theorem get?_forCaller : (r.forCaller naming).get? (naming.callerName column) = r.get? column := by
  unfold get?
  rw [entries_forCaller h.distinct]
  exact Entries.find?_rename (h.callerName_ne hc)

theorem entries_erase_forCaller : ((r.forCaller naming).erase (naming.callerName column)).entries =
    (r.erase column).callerEntries naming := by
  show Entries.erase _ (r.forCaller naming).entries = _
  rw [entries_forCaller h.distinct]
  exact Entries.erase_rename (h.callerName_ne hc)

/-- Of the names under which the column may arrive, the row has that of the caller alone. -/
theorem findName?_forCaller (hr : r.contains column = true) :
    (r.forCaller naming).findName? (naming.arrivals column) = some (naming.callerName column) := by
  have hk : naming.callerName column ∈ Entries.keys (r.forCaller naming).entries := by
    rw [h.keys_forCaller]
    exact List.mem_map_of_mem (contains_iff.mp hr)
  cases hf : (r.forCaller naming).findName? (naming.arrivals column) with
  | none => exact absurd (contains_iff.mpr hk) (List.find?_eq_none.mp hf _ hc)
  | some name =>
    have hn := contains_iff.mp (List.find?_some hf)
    rw [h.keys_forCaller] at hn
    obtain ⟨k, hk, rfl⟩ := List.mem_map.mp hn
    by_cases he : k = column
    · rw [he]
    · exact absurd (List.mem_of_find?_eq_some hf) (h.apart k hk he)

end KeepsApart

end Row

namespace Page

variable {row : Row} {rows : List Row}

/-- Which column is read matters to the wording of a failure only. -/
theorem toOption_readTotal (a b : String) (value : Json) :
    (readTotal a value).toOption = (readTotal b value).toOption := by
  cases value with
  | number n => simp only [readTotal]; cases n.toInt64? <;> rfl
  | string s =>
    simp only [readTotal]
    cases (IntegerRange.signed 64).read (Text.trim s.toList) <;> rfl
  | _ => rfl

/-- The total that a value spells. -/
def totalOf? (value : Json) : Option Int := (readTotal totalColumn value).toOption

theorem toOption_totalOfRow (missing : String) {names : Naming} {key : String}
    (h : row.findName? (names.arrivals column) = some key) :
    (totalOfRow names column missing row).toOption =
      (totalOf? ((row.get? key).getD .null)).map fun n => (n, key) := by
  unfold totalOfRow totalOf?
  rw [h, toOption_readTotal totalColumn key]
  dsimp only
  cases readTotal key ((row.get? key).getD .null) <;> rfl

/-- The total of a page and the entries of its rows, listed by `f`. -/
def listed (f : Row → List (String × Json)) (p : Page) : Int × List (List (String × Json)) :=
  (p.total, p.items.map f)

/-- A page with rows is the same up to names. -/
theorem ofRows_forCaller (h : Carries naming totalColumn (row :: rows)) :
    (ofRows naming (row.forCaller naming) (rows.map (Row.forCaller naming))).toOption.map
        (listed Row.entries) =
      (ofRows naming row rows).toOption.map (listed (Row.callerEntries naming)) := by
  have hc := callerName_mem_arrivals naming (List.mem_cons_self (a := totalColumn))
  have hr : row.contains totalColumn = true := h.first row rfl
  have hk := h.keepsApart row List.mem_cons_self
  have hi : (((row :: rows).map (Row.forCaller naming)).map fun r =>
        r.erase (naming.callerName totalColumn)).map Row.entries =
      ((row :: rows).map fun r => r.erase totalColumn).map (Row.callerEntries naming) := by
    rw [List.map_map, List.map_map, List.map_map]
    exact List.map_congr_left fun r hm => (h.keepsApart r hm).entries_erase_forCaller hc
  unfold ofRows
  rw [Except.toOption_map, Except.toOption_map, toOption_totalOfRow _ (hk.findName?_forCaller hc hr),
    toOption_totalOfRow _ (Row.findName?_arrivals hr), hk.get?_forCaller hc, Option.map_map,
    Option.map_map, Option.map_map, Option.map_map]
  exact Option.map_congr fun total _ => congrArg (total, ·) hi

/-- A count is the same. -/
theorem countedTotal_forCaller {answer : List Row} (h : Carries naming countColumn answer) :
    (countedTotal naming (answer.map (Row.forCaller naming))).toOption =
      (countedTotal naming answer).toOption := by
  cases answer with
  | nil => rfl
  | cons row rows =>
    have hc := callerName_mem_arrivals naming
      (List.mem_cons_of_mem totalColumn (List.mem_cons_self (a := countColumn)))
    have hr : row.contains countColumn = true := h.first row rfl
    have hk := h.keepsApart row List.mem_cons_self
    show ((totalOfRow naming countColumn _ (row.forCaller naming)).map Prod.fst).toOption =
      ((totalOfRow naming countColumn _ row).map Prod.fst).toOption
    rw [Except.toOption_map, Except.toOption_map, toOption_totalOfRow _ (hk.findName?_forCaller hc hr),
      toOption_totalOfRow _ (Row.findName?_arrivals hr), hk.get?_forCaller hc, Option.map_map,
      Option.map_map]
    rfl

end Page

theorem Executor.forCaller_apply (naming : Naming) (e : Executor) (n : Nat) (q : Query) :
    e.forCaller naming n q = (e n q).map (List.map (Row.forCaller naming)) := rfl

namespace Builder

variable {b : Builder} {e : Executor}

/-- The answers to a page carry the number of all rows, and those to the count of its rows the
count, in columns that the others keep apart from. -/
structure AnswersApart (b : Builder) (e : Executor) : Prop where
  page : ∀ q rows, b.build = .ok q → e 0 q = .ok rows →
    Carries b.config.naming Page.totalColumn rows
  count : ∀ q count answer, b.build = .ok q → e 0 q = .ok [] →
    b.statement.compileCount b.config = .ok count → e 1 count = .ok answer →
      Carries b.config.naming Page.countColumn answer

/-- Two runs for a page: they have sent the same, and either both have failed or the page of the
first is that of the second under the names of the caller. -/
structure SameUpToNames (naming : Naming) (x y : Except RunError Page × Journal) : Prop where
  calls : x.2.calls = y.2.calls
  page : x.1.toOption.map (Page.listed Row.entries) =
    y.1.toOption.map (Page.listed (Row.callerEntries naming))

theorem fetchPage_on (hw : b.statement.hasWindowTotal = true) {q : Query} (hq : b.build = .ok q) :
    (b.fetchPage e).on {} = match e 0 q with
      | .error err => (.error err, b.sent q)
      | .ok rows => (b.complete e rows).on (b.sent q) := by
  have hp : b.fetchPage e = b.sendStatement e >>= b.complete e := runIn_page hw
  rw [hp, Run.on_bind, sendStatement_on_ok b e {} hq]
  have h0 : e ({} : Journal).calls.length q = e 0 q := rfl
  rw [h0]
  cases e 0 q <;> rfl

theorem complete_cons_forCaller {row : Row} {rows : List Row}
    (h : Carries b.config.naming Page.totalColumn (row :: rows)) (j : Journal) :
    SameUpToNames b.config.naming
      ((b.complete (e.forCaller b.config.naming)
        ((row :: rows).map (Row.forCaller b.config.naming))).on j)
      ((b.complete e (row :: rows)).on j) := by
  have hp := Page.ofRows_forCaller h
  rw [List.map_cons, complete_cons_on, complete_cons_on]
  constructor
  · cases Page.ofRows b.config.naming (row.forCaller b.config.naming)
      (rows.map (Row.forCaller b.config.naming)) <;>
    cases Page.ofRows b.config.naming row rows <;> rfl
  · revert hp
    cases Page.ofRows b.config.naming (row.forCaller b.config.naming)
      (rows.map (Row.forCaller b.config.naming)) <;>
    cases Page.ofRows b.config.naming row rows <;> exact id

theorem complete_nil_forCaller {count : Query}
    (hc : b.statement.compileCount b.config = .ok count) (j : Journal)
    (h : ∀ answer, e j.calls.length count = .ok answer →
      Carries b.config.naming Page.countColumn answer) :
    SameUpToNames b.config.naming ((b.complete (e.forCaller b.config.naming) []).on j)
      ((b.complete e []).on j) := by
  rw [complete_nil_on b _ j hc, complete_nil_on b e j hc, Executor.forCaller_apply]
  cases ha : e j.calls.length count with
  | error err => exact ⟨rfl, rfl⟩
  | ok answer =>
    have ht := Page.countedTotal_forCaller (h answer ha)
    revert ht
    simp only [Except.map, Except.bind]
    cases Page.countedTotal b.config.naming (answer.map (Row.forCaller b.config.naming)) <;>
    cases Page.countedTotal b.config.naming answer <;> intro ht
    · exact ⟨rfl, rfl⟩
    · cases ht
    · cases ht
    · cases ht
      exact ⟨rfl, rfl⟩

/-- A page under the names of the caller. Run against an executor that answers under the names of
the caller, a statement that carries the number of all rows sends the same as against the executor
itself, fails if and only if it fails there, and has the same total and the same rows up to names,
with their columns in the same order. -/
theorem page_forCaller (b : Builder) (e : Executor) (hw : b.statement.hasWindowTotal = true)
    (h : b.AnswersApart e) :
    SameUpToNames b.config.naming ((b.fetchPage (e.forCaller b.config.naming)).on {})
      ((b.fetchPage e).on {}) := by
  cases hb : b.build with
  | error err =>
    have he (f : Executor) : (b.fetchPage f).on {} = (.error (.build err), {}) :=
      runIn_on_error (m := .page) hb {}
    rw [he, he]
    exact ⟨rfl, rfl⟩
  | ok q =>
    rw [fetchPage_on hw hb, fetchPage_on hw hb]
    rw [Executor.forCaller_apply]
    cases ha : e 0 q with
    | error err => exact ⟨rfl, rfl⟩
    | ok rows =>
      cases rows with
      | cons row rows => exact complete_cons_forCaller (h.page q _ hb ha) (b.sent q)
      | nil =>
        obtain ⟨count, hc⟩ := Statement.exists_compileCount (isSelect_of_hasWindowTotal hw)
          (build_eq_ok hb)
        exact complete_nil_forCaller hc (b.sent q) fun answer hn =>
          h.count q count answer hb ha hc hn

/-- The times of signups, for a caller who writes names in capitals. -/
def signups : Builder :=
  (ofTable { naming := ⟨.snake, .screamingSnake⟩ } "users").applyAll
    [.select (.list ["createdAt"]), .paginated ⟨0, some 1⟩]

/-- Answers with one signup of two. -/
def oneSignup : Executor :=
  .scripted [.ok [.ofList [("created_at", .string "2024-01-01"), ("total", .string "2")]]]

/-- Answers without signups on the page, of which there are two. -/
def noSignup : Executor := .scripted [.ok [], .ok [.ofList [("count", .string "2")]]]

theorem page_forCaller_signups :
    signups.statement.hasWindowTotal = true ∧ signups.AnswersApart oneSignup ∧
      signups.AnswersApart noSignup ∧
      SameUpToNames signups.config.naming
        ((signups.fetchPage (oneSignup.forCaller signups.config.naming)).on {})
        ((signups.fetchPage oneSignup).on {}) ∧
      SameUpToNames signups.config.naming
        ((signups.fetchPage (noSignup.forCaller signups.config.naming)).on {})
        ((signups.fetchPage noSignup).on {}) ∧
      ((signups.fetchPage oneSignup).on {}).1.toOption.map
          (Page.listed (Row.callerEntries signups.config.naming)) =
        some (2, [[("CREATED_AT", .string "2024-01-01")]]) ∧
      ((signups.fetchPage noSignup).on {}).1.toOption.map
        (Page.listed (Row.callerEntries signups.config.naming)) = some (2, []) := by
  have ho : signups.AnswersApart oneSignup := by
    constructor
    · intro q rows _ ha
      cases ha
      refine ⟨fun row hr => ?_, fun row hr => ?_⟩
      · cases hr
        rfl
      · cases List.mem_singleton.mp hr
        exact ⟨by decide, by decide⟩
    · intro q count answer _ ha
      cases ha
  have hn : signups.AnswersApart noSignup := by
    constructor
    · intro q rows _ ha
      cases ha
      exact ⟨by simp, by simp⟩
    · intro q count answer _ _ _ ha
      cases ha
      refine ⟨fun row hr => ?_, fun row hr => ?_⟩
      · cases hr
        rfl
      · cases List.mem_singleton.mp hr
        exact ⟨by decide, by decide⟩
  exact ⟨rfl, ho, hn, page_forCaller signups oneSignup rfl ho,
    page_forCaller signups noSignup rfl hn, rfl, rfl⟩

end Builder

end SqlCompose
