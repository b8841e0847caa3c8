import Mathlib.Data.List.Induction
import Mathlib.Data.List.Nodup
import SqlCompose.Proofs.Lists
import SqlCompose.Row

/-!
# Rows of columns, and rows under other names

Of columns set one after the other, the first of a name gives the place and the last the value
(`Row.collects_ofList`), and there is one row like that (`Row.Collects.unique`). Columns with distinct
names are listed (`Row.entries_ofList`). So a row whose columns keep apart under the names of the
caller has the same values in the same places there (`Row.entries_forCaller`), and looking up or
erasing a column that keeps apart from the others commutes with renaming.
-/

namespace SqlCompose

namespace Entries

variable {α : Type} {f : String → String} {key : String} {es : List (String × α)}

/-- The entries under new keys. -/
def rename (f : String → String) (es : List (String × α)) : List (String × α) :=
  es.map fun e => (f e.1, e.2)

theorem keys_rename (f : String → String) (es : List (String × α)) :
    keys (rename f es) = (keys es).map f := by
  simp [keys, rename]

theorem set_of_not_mem (h : key ∉ keys es) (value : α) : set key value es = es ++ [(key, value)] := by
  induction es with
  | nil => rfl
  | cons e es ih =>
    obtain ⟨k, v⟩ := e
    simp only [keys, List.map_cons, List.mem_cons, not_or] at h
    have hk : ¬ k = key := fun hk => h.1 hk.symm
    show (if k = key then _ else (k, v) :: set key value es) = _
    rw [if_neg hk, ih h.2]
    rfl

/-- A key that keeps apart from the others is found under its new name. -/
theorem find?_rename (h : ∀ k ∈ keys es, k ≠ key → f k ≠ f key) :
    find? (f key) (rename f es) = find? key es := by
  induction es with
  | nil => rfl
  | cons e es ih =>
    obtain ⟨k, v⟩ := e
    have ht := ih fun k' hk' => h k' (List.mem_cons_of_mem k hk')
    show (if f k = f key then some v else find? (f key) (rename f es)) = find? key ((k, v) :: es)
    by_cases hk : k = key
    · rw [hk]
      simp [find?]
    · rw [if_neg (h k List.mem_cons_self hk), ht]
      simp [find?, hk]

/-- A key that keeps apart from the others is erased under its new name. -/
theorem erase_rename (h : ∀ k ∈ keys es, k ≠ key → f k ≠ f key) :
    erase (f key) (rename f es) = rename f (erase key es) := by
  unfold erase rename
  rw [List.filter_map]
  congr 1
  refine List.filter_congr fun e he => ?_
  have hk : e.1 ∈ keys es := List.mem_map_of_mem he
  by_cases hn : e.1 = key
  · simp [hn]
  · simp [hn, h e.1 hk hn]

theorem exists_last_of_mem_keys (h : key ∈ keys es) :
    ∃ before value behind, es = before ++ (key, value) :: behind ∧ key ∉ keys behind := by
  induction es with
  | nil => cases h
  | cons e es ih =>
    by_cases hk : key ∈ keys es
    · obtain ⟨before, value, behind, rfl, hb⟩ := ih hk
      exact ⟨e :: before, value, behind, rfl, hb⟩
    · obtain rfl : key = e.1 := (List.mem_cons.mp h).resolve_right hk
      exact ⟨[], e.2, es, rfl, hk⟩

/-- Entries under the same distinct keys are the same if they are found to be. -/
theorem eq_of_find? {fs : List (String × α)} (hd : (keys es).Nodup) (hk : keys es = keys fs)
    (hf : ∀ k ∈ keys es, find? k es = find? k fs) : es = fs := by
  induction es generalizing fs with
  | nil => exact (List.map_eq_nil_iff.mp hk.symm).symm
  | cons e es ih =>
    cases fs with
    | nil => cases hk
    | cons f fs =>
      obtain ⟨k, v⟩ := e
      obtain ⟨k', w⟩ := f
      obtain ⟨rfl, hks⟩ : k = k' ∧ keys es = keys fs := List.cons.inj hk
      have hv := hf k List.mem_cons_self
      have ht : es = fs := by
        refine ih (List.nodup_cons.mp hd).2 hks fun key hm => ?_
        have hn : ¬ k = key := fun he => (List.nodup_cons.mp hd).1 (he ▸ hm)
        have h := hf key (List.mem_cons_of_mem k hm)
        simpa [find?, hn] using h
      rw [ht, show v = w by simpa [find?] using hv]

end Entries

namespace Row

variable {naming : Naming} {r : Row}

theorem contains_iff {column : String} : r.contains column = true ↔ column ∈ Entries.keys r.entries := by
  unfold contains get?
  rw [Option.isSome_iff_ne_none, ne_eq, Entries.find?_eq_none_iff, not_not]

theorem entries_foldl_set (es : List (String × Json)) :
    ∀ r : Row, (Entries.keys (r.entries ++ es)).Nodup →
      (es.foldl (fun r e => r.set e.1 e.2) r).entries = r.entries ++ es := by
  induction es with
  | nil => simp
  | cons e es ih =>
    intro r h
    have hk : e.1 ∉ Entries.keys r.entries := by
      unfold Entries.keys at h ⊢
      rw [List.map_append, List.map_cons] at h
      exact fun hm => (List.nodup_append.mp h).2.2 _ hm _ List.mem_cons_self rfl
    have hs : (r.set e.1 e.2).entries = r.entries ++ [e] := Entries.set_of_not_mem hk e.2
    rw [List.foldl_cons, ih, hs, List.append_assoc]
    · rfl
    · rw [hs, List.append_assoc]
      exact h

/-- Columns with distinct names are listed as they are set. -/
theorem entries_ofList {es : List (String × Json)} (h : (Entries.keys es).Nodup) :
    (ofList es).entries = es :=
  entries_foldl_set es empty h

/-! ## Columns of the same name -/

/-- Is `r` the row of some entries? Its columns are the names among them, each once and in the order
in which they occur first, and the value of a column is that of the last entry of its name. -/
structure Collects (es : List (String × Json)) (r : Row) : Prop where
  keys : Entries.keys r.entries = (Entries.keys es).eraseDups
  last : ∀ before key value behind, es = before ++ (key, value) :: behind →
    key ∉ Entries.keys behind → r.get? key = some value

theorem ofList_concat (es : List (String × Json)) (e : String × Json) :
    ofList (es ++ [e]) = (ofList es).set e.1 e.2 := by
  simp [ofList]

theorem keys_ofList (es : List (String × Json)) :
    Entries.keys (ofList es).entries = (Entries.keys es).eraseDups := by
  induction es using List.reverseRecOn with
  | nil => rfl
  | append_singleton es e ih =>
    have hk : Entries.keys (es ++ [e]) = Entries.keys es ++ [e.1] := List.map_append
    rw [ofList_concat, hk, eraseDups_concat]
    refine (Entries.keys_set e.1 e.2 (ofList es).entries).trans ?_
    simp only [ih, List.mem_eraseDups]

/-- Entries of other names do not change a value that was set. -/
theorem get?_ofList_append (before behind : List (String × Json)) (key : String) (value : Json)
    (h : key ∉ Entries.keys behind) :
    (ofList (before ++ (key, value) :: behind)).get? key = some value := by
  induction behind using List.reverseRecOn with
  | nil =>
    rw [ofList_concat]
    exact Entries.find?_set_self key value _
  | append_singleton behind e ih =>
    unfold Entries.keys at h
    rw [List.map_append, List.mem_append, not_or] at h
    have hn : key ≠ e.1 := fun he => h.2 (he ▸ List.mem_singleton_self e.1)
    have hs : before ++ (key, value) :: (behind ++ [e]) = before ++ (key, value) :: behind ++ [e] := by
      rw [List.append_assoc, List.cons_append]
    rw [hs, ofList_concat]
    exact (Entries.find?_set_of_ne hn e.2 _).trans (ih h.1)

theorem collects_ofList (es : List (String × Json)) : (ofList es).Collects es where
  keys := keys_ofList es
  last := by
    rintro before key value behind rfl h
    exact get?_ofList_append before behind key value h

namespace Collects

variable {es : List (String × Json)} {s : Row}

theorem unique (hr : r.Collects es) (hs : s.Collects es) : r = s := by
  have he : r.entries = s.entries := by
    refine Entries.eq_of_find? r.distinct (hr.keys.trans hs.keys.symm) fun key hk => ?_
    rw [hr.keys, List.mem_eraseDups] at hk
    obtain ⟨before, value, behind, he, hb⟩ := Entries.exists_last_of_mem_keys hk
    exact (hr.last _ _ _ _ he hb).trans (hs.last _ _ _ _ he hb).symm
  cases r
  cases s
  cases he
  rfl

theorem eq_ofList (h : r.Collects es) : r = ofList es := h.unique (collects_ofList es)

/-- Under distinct names no entry is lost and none changes its place. -/
theorem entries_eq (h : r.Collects es) (hd : (Entries.keys es).Nodup) : r.entries = es := by
  rw [h.eq_ofList]
  exact entries_ofList hd

end Collects

/-! ## Columns under the names of the caller -/

/-- The entries under the names of the caller. -/
def callerEntries (naming : Naming) (r : Row) : List (String × Json) :=
  Entries.rename naming.callerName r.entries

/-- Columns that keep apart under the names of the caller keep their places and values there. -/
theorem entries_forCaller (h : (Entries.keys (r.callerEntries naming)).Nodup) :
    (r.forCaller naming).entries = r.callerEntries naming :=
  entries_ofList h

/-- The only one of some names that the row has is the first of them. -/
theorem findName?_eq_some {names : List String} {column : String} (hm : column ∈ names)
    (hc : r.contains column = true)
    (ho : ∀ other ∈ names, other ≠ column → r.contains other = false) :
    r.findName? names = some column := by
  unfold findName?
  cases hf : names.find? r.contains with
  | none => exact absurd hc (List.find?_eq_none.mp hf column hm)
  | some name =>
    by_contra hn
    have hne : name ≠ column := fun h => hn (congrArg some h)
    have hr := ho name (List.mem_of_find?_eq_some hf) hne
    rw [List.find?_some hf] at hr
    cases hr

end Row

end SqlCompose
