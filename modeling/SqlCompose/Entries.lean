/-!
# Entries in order

Keys with values in the order in which the keys were first met. Setting a key that is present
keeps its place and replaces its value, so distinct keys stay distinct.
-/

namespace SqlCompose.Entries

variable {α : Type}

/-- The keys, in order. -/
def keys (entries : List (String × α)) : List String := entries.map Prod.fst

/-- The value of a key. -/
def find? (key : String) : List (String × α) → Option α
  | [] => none
  | (k, v) :: es => if k = key then some v else find? key es

/-- The entries with `key` set to `value`. -/
def set (key : String) (value : α) : List (String × α) → List (String × α)
  | [] => [(key, value)]
  | (k, v) :: es => if k = key then (k, value) :: es else (k, v) :: set key value es

/-- The entries without `key`. -/
def erase (key : String) (entries : List (String × α)) : List (String × α) :=
  entries.filter fun e => e.1 ≠ key

theorem find?_eq_none_iff {key : String} {es : List (String × α)} :
    find? key es = none ↔ key ∉ keys es := by
  induction es with
  | nil => simp [find?, keys]
  | cons e es ih =>
    obtain ⟨k, v⟩ := e
    by_cases h : k = key
    · simp [find?, keys, h]
    · have h' : ¬ key = k := fun e => h e.symm
      simp [find?, keys, h, h', ih]

@[simp] theorem find?_set_self (key : String) (value : α) (es : List (String × α)) :
    find? key (set key value es) = some value := by
  induction es with
  | nil => simp [set, find?]
  | cons e es ih =>
    obtain ⟨k, v⟩ := e
    by_cases h : k = key <;> simp [set, find?, h, ih]

theorem find?_set_of_ne {key other : String} (h : other ≠ key) (value : α)
    (es : List (String × α)) : find? other (set key value es) = find? other es := by
  induction es with
  | nil => simp [set, find?, Ne.symm h]
  | cons e es ih =>
    obtain ⟨k, v⟩ := e
    by_cases hk : k = key
    · subst hk
      simp [set, find?, Ne.symm h]
    · by_cases ho : k = other
      · subst ho
        simp [set, find?, h]
      · simp [set, find?, hk, ho, ih]

theorem keys_set (key : String) (value : α) (es : List (String × α)) :
    keys (set key value es) = if key ∈ keys es then keys es else keys es ++ [key] := by
  induction es with
  | nil => simp [set, keys]
  | cons e es ih =>
    obtain ⟨k, v⟩ := e
    by_cases h : k = key
    · simp [set, keys, h]
    · have h' : ¬ key = k := fun e => h e.symm
      by_cases hm : key ∈ keys es <;> simp_all [set, keys]

theorem nodup_keys_set {es : List (String × α)} (h : (keys es).Nodup) (key : String) (value : α) :
    (keys (set key value es)).Nodup := by
  rw [keys_set]
  split
  · exact h
  · rename_i hk
    rw [List.nodup_append]
    refine ⟨h, by simp, ?_⟩
    rintro a ha b hb rfl
    exact hk ((List.mem_singleton.mp hb) ▸ ha)

theorem nodup_keys_erase {es : List (String × α)} (h : (keys es).Nodup) (key : String) :
    (keys (erase key es)).Nodup :=
  h.sublist (List.Sublist.map Prod.fst List.filter_sublist)

end SqlCompose.Entries
