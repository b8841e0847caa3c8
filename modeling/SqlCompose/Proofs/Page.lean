import Mathlib.Data.List.Forall2
import SqlCompose.Proofs.Execution.Mode
import SqlCompose.Proofs.Failure
import SqlCompose.Proofs.Number.Integer
import SqlCompose.Proofs.Row

/-!
# Pages of rows

A page takes the number of all rows from its first row, under the first of the names that the row
has, and takes that column out of every row. What counts as a number is `Page.Counts`, which a
column is read by (`Page.readTotal_cases`); a row without its column is the same row where it
has none, and otherwise what stands before and behind the column (`Row.without_erase`).
-/

namespace SqlCompose

/-! ## Rows without a column -/

namespace Entries

variable {α : Type} {key : String} {es before behind : List (String × α)} {value : α}

theorem erase_of_not_mem (h : key ∉ keys es) : erase key es = es := by
  refine List.filter_eq_self.mpr fun e he => ?_
  have hk : e.1 ≠ key := fun hk => h (hk ▸ List.mem_map_of_mem he)
  simp [hk]

/-- Among distinct keys one entry at most is erased. -/
theorem erase_append_cons (h : (keys (before ++ (key, value) :: behind)).Nodup) :
    erase key (before ++ (key, value) :: behind) = before ++ behind := by
  unfold keys at h
  rw [List.map_append, List.map_cons, List.nodup_middle, List.nodup_cons, List.mem_append,
    not_or] at h
  obtain ⟨⟨hb, hf⟩, -⟩ := h
  have hd : erase key ((key, value) :: behind) = erase key behind := by simp [erase]
  unfold erase at hd ⊢
  rw [List.filter_append, hd]
  exact congrArg₂ (· ++ ·) (erase_of_not_mem hb) (erase_of_not_mem hf)

theorem exists_append_of_find? (h : find? key es = some value) :
    ∃ before behind, es = before ++ (key, value) :: behind := by
  induction es with
  | nil => cases h
  | cons e es ih =>
    obtain ⟨k, v⟩ := e
    unfold find? at h
    split at h
    · rename_i hk
      cases h
      exact ⟨[], es, by rw [hk]; rfl⟩
    · obtain ⟨before, behind, rfl⟩ := ih h
      exact ⟨(k, v) :: before, behind, rfl⟩

end Entries

/-- `s` is the row `r` without its column `key`: it is `r` if there is none, and else it has what
stands before and behind the column. -/
inductive Row.Without (key : String) (r s : Row) : Prop where
  | lacks (h : r.get? key = none) (hs : s = r)
  | has {before behind : List (String × Json)} {value : Json}
      (h : r.entries = before ++ (key, value) :: behind) (hs : s.entries = before ++ behind)

theorem Row.without_erase (r : Row) (key : String) : r.Without key (r.erase key) := by
  cases hv : r.get? key with
  | none =>
    refine .lacks hv ?_
    obtain ⟨es, hd⟩ := r
    have he := Entries.erase_of_not_mem (Entries.find?_eq_none_iff.mp hv)
    unfold erase
    simp only [he]
  | some value =>
    obtain ⟨before, behind, he⟩ := Entries.exists_append_of_find? hv
    refine .has he ?_
    have hd := r.distinct
    show Entries.erase key r.entries = before ++ behind
    rw [he] at hd ⊢
    exact Entries.erase_append_cons hd

/-- The first of some names that a row has. -/
theorem Row.findName?_append {r : Row} {key : String} {before behind : List String}
    (hb : ∀ name ∈ before, r.get? name = none) {value : Json} (hk : r.get? key = some value) :
    r.findName? (before ++ key :: behind) = some key := by
  refine List.find?_eq_some_iff_append.mpr ⟨?_, before, behind, rfl, fun name hn => ?_⟩
  · rw [Row.contains, hk, Option.isSome_some]
  · rw [Row.contains, hb name hn]
    rfl

/-! ## Numbers of rows -/

namespace Page

/-- The value stands for that many rows: as an integer of 64 bits, as the decimal text of one with
blanks around it, or as null for none. -/
inductive Counts : Json → Int → Prop where
  | null : Counts .null 0
  | number {n : Int} (h : -0x8000000000000000 ≤ n ∧ n < 0x10000000000000000)
      (hn : (IntegerRange.signed 64).contains n = true) : Counts (.number (.integer n h)) n
  | text {s : String} {n : Int} (hs : Spells (Text.trim s.toList) n)
      (hn : (IntegerRange.signed 64).contains n = true) : Counts (.string s) n

theorem contains_signed64_iff {n : Int} : (IntegerRange.signed 64).contains n = true ↔
    -0x8000000000000000 ≤ n ∧ n < 0x8000000000000000 := by
  have hl : (IntegerRange.signed 64).least = -0x8000000000000000 := by decide
  have hg : (IntegerRange.signed 64).greatest = 0x7fffffffffffffff := by decide
  rw [IntegerRange.contains_iff, hl, hg]
  omega

/-- An integer of a number is one of 64 bits with sign if it is in their range. -/
theorem map_toInt_toInt64? (n : Int) (h : -0x8000000000000000 ≤ n ∧ n < 0x10000000000000000) :
    (JsonNumber.integer n h).toInt64?.map Int64.toInt =
      if (IntegerRange.signed 64).contains n then some n else none := by
  by_cases hn : n < 0x8000000000000000
  · rw [if_pos (contains_signed64_iff.mpr ⟨h.1, hn⟩)]
    simp [JsonNumber.toInt64?, hn]
  · rw [if_neg fun hc => hn (contains_signed64_iff.mp hc).2]
    simp [JsonNumber.toInt64?, hn]

theorem zero_mem_signed64 :
    (IntegerRange.signed 64).least ≤ 0 ∧ 0 ≤ (IntegerRange.signed 64).greatest := by decide

/-- A column is read by what it counts, and named if it counts nothing. -/
theorem readTotal_cases (column : String) (value : Json) :
    (∃ n, Counts value n ∧ readTotal column value = .ok n) ∨
      (∀ n, ¬ Counts value n) ∧
        ∃ message, readTotal column value = .error (.decode column message) := by
  cases value with
  | null => exact .inl ⟨0, .null, rfl⟩
  | bool _ => exact .inr ⟨nofun, _, rfl⟩
  | array _ => exact .inr ⟨nofun, _, rfl⟩
  | object _ => exact .inr ⟨nofun, _, rfl⟩
  | number x =>
    cases x with
    | float _ _ => exact .inr ⟨nofun, _, rfl⟩
    | integer n h =>
      have hm := map_toInt_toInt64? n h
      unfold readTotal
      dsimp only
      by_cases hc : (IntegerRange.signed 64).contains n = true
      · rw [if_pos hc] at hm
        obtain ⟨i, hi, hn⟩ := Option.map_eq_some_iff.mp hm
        rw [hi]
        exact .inl ⟨n, .number h hc, congrArg Except.ok hn⟩
      · rw [if_neg hc] at hm
        rw [Option.map_eq_none_iff.mp hm]
        refine .inr ⟨fun m hm => ?_, _, rfl⟩
        cases hm with
        | number _ hn => exact hc hn
  | string s =>
    unfold readTotal
    dsimp only
    cases hr : (IntegerRange.signed 64).read (Text.trim s.toList) with
    | ok n =>
      obtain ⟨hs, hn⟩ := (IntegerRange.read_eq_ok_iff zero_mem_signed64).mp hr
      exact .inl ⟨n, .text hs hn, rfl⟩
    | error _ =>
      refine .inr ⟨fun n hn => ?_, _, rfl⟩
      cases hn with
      | text hs hn =>
        rw [(IntegerRange.read_eq_ok_iff zero_mem_signed64).mpr ⟨hs, hn⟩] at hr
        cases hr

theorem Counts.unique {value : Json} {n m : Int} (hn : Counts value n) (hm : Counts value m) :
    n = m := by
  cases hn with
  | null =>
    cases hm
    rfl
  | number _ _ =>
    cases hm
    rfl
  | text hs _ =>
    cases hm with
    | text ht _ => exact hs.unique ht

theorem readTotal_of_counts {column : String} {value : Json} {n : Int} (h : Counts value n) :
    readTotal column value = .ok n := by
  rcases readTotal_cases column value with ⟨m, hm, hr⟩ | ⟨hc, -⟩
  · rw [hr, h.unique hm]
  · exact absurd h (hc n)

theorem readTotal_of_not_counts (column : String) {value : Json} (h : ∀ n, ¬ Counts value n) :
    ∃ message, readTotal column value = .error (.decode column message) := by
  rcases readTotal_cases column value with ⟨m, hm, -⟩ | ⟨-, hr⟩
  · exact absurd hm (h m)
  · exact hr

/-! ## Pages -/

section OfRows

variable {naming : Naming} {row : Row} {key : String} {value : Json}

theorem totalOfRow_of_find {column : String} (missing : String)
    (hk : row.findName? (naming.arrivals column) = some key) (hv : row.get? key = some value) :
    totalOfRow naming column missing row = (readTotal key value).map fun n => (n, key) := by
  unfold totalOfRow
  rw [hk]
  dsimp only
  rw [hv]
  rfl

variable (rows : List Row)

theorem ofRows_of_counts (hk : row.findName? (naming.arrivals totalColumn) = some key)
    (hv : row.get? key = some value) {total : Int} (h : Counts value total) :
    ofRows naming row rows = .ok ⟨total, (row :: rows).map fun r => r.erase key⟩ := by
  unfold ofRows
  rw [totalOfRow_of_find _ hk hv, readTotal_of_counts h]
  rfl

theorem ofRows_of_not_counts (hk : row.findName? (naming.arrivals totalColumn) = some key)
    (hv : row.get? key = some value) (h : ∀ n, ¬ Counts value n) :
    ∃ message, ofRows naming row rows = .error (.decode key message) := by
  obtain ⟨message, hr⟩ := readTotal_of_not_counts key h
  refine ⟨message, ?_⟩
  unfold ofRows
  rw [totalOfRow_of_find _ hk hv, hr]
  rfl

theorem ofRows_of_not_found (hk : row.findName? (naming.arrivals totalColumn) = none) :
    ofRows naming row rows = .error (.decode totalColumn "window total missing from row") := by
  unfold ofRows totalOfRow
  rw [hk]
  rfl

end OfRows

/-! ## Faults of columns -/

section Decode

variable {naming : Naming} {row : Row} {err : RunError}

theorem decode_of_totalOfRow {column missing : String}
    (h : totalOfRow naming column missing row = .error err) :
    ∃ key message, err = .decode key message := by
  unfold totalOfRow at h
  split at h
  · cases h
    exact ⟨column, missing, rfl⟩
  · rename_i key hk
    rcases readTotal_cases key ((row.get? key).getD .null) with ⟨n, -, hr⟩ | ⟨-, message, hr⟩
    · rw [hr] at h
      cases h
    · rw [hr] at h
      cases h
      exact ⟨key, message, rfl⟩

theorem decode_of_map_totalOfRow {α : Type} {f : Int × String → α} {column missing : String}
    (h : (totalOfRow naming column missing row).map f = .error err) :
    ∃ key message, err = .decode key message := by
  have hf := congrArg Except.failure? h
  rw [Except.failure?_map] at hf
  exact decode_of_totalOfRow (Except.failure?_eq_some_iff.mp hf)

theorem decode_of_countedTotal {rows : List Row} (h : countedTotal naming rows = .error err) :
    ∃ key message, err = .decode key message := by
  cases rows with
  | nil => cases h
  | cons row rows => exact decode_of_map_totalOfRow h

end Decode

end Page

namespace Builder

/-- A page of rows. The number of all rows is in the first row, under the first of the three names
that the row has: as written, as the database spells it, and as the caller spells that. If the value
there counts rows, the page has this number and has the rows in order, each without the column of
that name; if it does not, the column is at fault, and if there is no such column, that is said. The
executor is not called. -/
theorem complete_rows (b : Builder) (e : Executor) (row : Row) (rows : List Row) (j : Journal) :
    let run := (b.complete e (row :: rows)).on j
    let names := b.config.naming.arrivals Page.totalColumn
    (∀ before key behind value, names = before ++ key :: behind →
      (∀ name ∈ before, row.get? name = none) → row.get? key = some value →
      (∀ total, Page.Counts value total → ∃ items, run.1 = .ok ⟨total, items⟩ ∧
        List.Forall₂ (Row.Without key) (row :: rows) items) ∧
      ((∀ total, ¬ Page.Counts value total) → ∃ message, run.1 = .error (.decode key message))) ∧
    ((∀ name ∈ names, row.get? name = none) →
      run.1 = .error (.decode Page.totalColumn "window total missing from row")) ∧
    run.2.calls = j.calls := by
  intro run names
  have hr := complete_cons_on b e j row rows
  change run = _ at hr
  refine ⟨fun before key behind value hs hb hv => ?_, fun hm => ?_, ?_⟩
  · have hk : row.findName? names = some key := by
      rw [hs]
      exact Row.findName?_append hb hv
    refine ⟨fun total hc => ⟨(row :: rows).map fun r => r.erase key, ?_, ?_⟩, fun hc => ?_⟩
    · rw [hr, Page.ofRows_of_counts rows hk hv hc]
    · exact List.forall₂_map_right_iff.mpr (List.forall₂_same.mpr fun r _ => r.without_erase key)
    · obtain ⟨message, ho⟩ := Page.ofRows_of_not_counts rows hk hv hc
      exact ⟨message, by rw [hr, ho]⟩
  · have hk : row.findName? names = none := by
      refine List.find?_eq_none.mpr fun name hn => ?_
      rw [Row.contains, hm name hn]
      exact Bool.false_ne_true
    rw [hr, Page.ofRows_of_not_found rows hk]
  · rw [hr]
    cases Page.ofRows b.config.naming row rows <;> rfl

/-- Orders in a database that spells names in Pascal case. -/
def pascalOrders : Builder := ofTable { naming := ⟨.pascal, .screamingSnake⟩ } "Orders"

theorem complete_rows_pascalOrders :
    let first := Row.ofList [("Id", .string "a"), ("Total", .string " +2 "), ("Note", .null)]
    let second := Row.ofList [("Id", .string "b"), ("total", .bool true)]
    let run (row : Row) := (pascalOrders.complete (.scripted []) [row, second]).on {}
    pascalOrders.config.naming.arrivals Page.totalColumn = ["total"] ++ "Total" :: ["TOTAL"] ∧
    first.get? "total" = none ∧ first.get? "Total" = some (.string " +2 ") ∧
    Page.Counts (.string " +2 ") 2 ∧
    (∃ items, (run first).1 = .ok ⟨2, items⟩ ∧
      List.Forall₂ (Row.Without "Total") [first, second] items) ∧
    (run first).2.calls = [] ∧
    (∃ message, (run second).1 = .error (.decode "total" message)) ∧
    (run .empty).1 = .error (.decode "total" "window total missing from row") := by
  intro first second run
  have hn : pascalOrders.config.naming.arrivals Page.totalColumn = ["total", "Total", "TOTAL"] := by
    decide +kernel
  have hc : Page.Counts (.string " +2 ") 2 :=
    .text (.plus ⟨by decide, List.forall_mem_singleton.mpr rfl⟩) (by decide)
  have h (row : Row) := complete_rows pascalOrders (.scripted []) row [second] {}
  obtain ⟨hf, -, hcalls⟩ := h first
  obtain ⟨ht, -⟩ := hf ["total"] "Total" ["TOTAL"] _ hn (List.forall_mem_singleton.mpr rfl) rfl
  obtain ⟨-, hm⟩ := (h second).1 [] "total" ["Total", "TOTAL"] _ hn nofun rfl
  exact ⟨hn, rfl, rfl, hc, ht 2 hc, hcalls, hm nofun, (h .empty).2.1 fun _ _ => rfl⟩

end Builder

end SqlCompose
