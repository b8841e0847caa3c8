/-!
# Results and failures of computations

The failure of a computation, if it has no result, and what must have succeeded if it has one. Of
computations made one after the other the first failure counts, so a computation over a list fails
with the first of all failures in it (`Except.failure?_mapM`).
-/

namespace Except

variable {ε α β : Type}

/-- Why there is no result, if there is none. -/
def failure? : Except ε α → Option ε
  | ok _ => none
  | error e => some e

@[simp] theorem failure?_ok (a : α) : failure? (ok a : Except ε α) = none := rfl

@[simp] theorem failure?_error (e : ε) : failure? (error e : Except ε α) = some e := rfl

theorem failure?_eq_some_iff {x : Except ε α} {e : ε} : x.failure? = some e ↔ x = .error e := by
  cases x <;> simp

theorem failure?_eq_none_iff {x : Except ε α} : x.failure? = none ↔ ∃ a, x = .ok a := by
  cases x <;> simp

@[simp] theorem failure?_map (f : α → β) (x : Except ε α) : (x.map f).failure? = x.failure? := by
  cases x <;> rfl

@[simp] theorem failure?_mapError {δ : Type} (f : ε → δ) (x : Except ε α) :
    (x.mapError f).failure? = x.failure?.map f := by
  cases x <;> rfl

theorem toOption_map (x : Except ε α) (f : α → β) : (x.map f).toOption = x.toOption.map f := by
  cases x <;> rfl

/-- A computation that goes on with another one fails with the first failure of the two. -/
theorem failure?_bind {x : Except ε α} {f : α → Except ε β} {r : Option ε}
    (h : ∀ a, x = .ok a → (f a).failure? = r) : (x >>= f).failure? = x.failure?.or r := by
  cases x with
  | error e => rfl
  | ok a => exact h a rfl

/-- If the failures of each computation are listed, the first of them all is the failure. -/
theorem failure?_mapM {f : α → Except ε β} {g : α → List ε} {xs : List α}
    (h : ∀ x ∈ xs, (f x).failure? = (g x).head?) :
    (xs.mapM f).failure? = (xs.flatMap g).head? := by
  induction xs with
  | nil => rfl
  | cons x xs ih =>
    have hr : (xs.mapM f).failure? = (xs.flatMap g).head? :=
      ih fun y hy => h y (List.mem_cons_of_mem x hy)
    have hc (y : β) : (xs.mapM f >>= fun ys => pure (y :: ys)).failure? = (xs.mapM f).failure? := by
      cases xs.mapM f <;> rfl
    rw [List.mapM_cons, failure?_bind fun y _ => hc y, h x List.mem_cons_self, hr,
      List.flatMap_cons, List.head?_append]

end Except

namespace SqlCompose

variable {ε α β : Type}

theorem bind_eq_ok {x : Except ε α} {f : α → Except ε β} {b : β} (h : x >>= f = .ok b) :
    ∃ a, x = .ok a ∧ f a = .ok b := by
  cases x with
  | error err => cases h
  | ok a => exact ⟨a, rfl, h⟩

theorem map_eq_ok {x : Except ε α} {f : α → β} {b : β} (h : x.map f = .ok b) :
    ∃ a, x = .ok a ∧ b = f a := by
  cases x with
  | error err => cases h
  | ok a =>
    cases h
    exact ⟨a, rfl, rfl⟩

theorem map_of_mapM_eq_ok {f : α → Except ε β} {xs : List α} {ys : List β}
    (h : xs.mapM f = .ok ys) : xs.map f = ys.map .ok := by
  induction xs generalizing ys with
  | nil =>
    cases h
    rfl
  | cons x xs ih =>
    rw [List.mapM_cons] at h
    obtain ⟨y, hy, h⟩ := bind_eq_ok h
    obtain ⟨zs, hzs, h⟩ := bind_eq_ok h
    cases h
    rw [List.map_cons, List.map_cons, hy, ih hzs]

theorem mapM_eq_ok_iff {f : α → Except ε β} {xs : List α} {ys : List β} :
    xs.mapM f = .ok ys ↔ xs.map f = ys.map .ok := by
  refine ⟨map_of_mapM_eq_ok, fun h => ?_⟩
  induction xs generalizing ys with
  | nil =>
    rw [List.map_eq_nil_iff.mp h.symm]
    rfl
  | cons x xs ih =>
    cases ys with
    | nil => cases h
    | cons y ys =>
      obtain ⟨hx, hxs⟩ := List.cons.inj h
      rw [List.mapM_cons, hx, ih hxs]
      rfl

theorem exists_mem_of_mapM_eq_ok {f : α → Except ε β} {xs : List α} {ys : List β}
    (h : xs.mapM f = .ok ys) {y : β} (hy : y ∈ ys) : ∃ x ∈ xs, f x = .ok y := by
  have hm : (.ok y : Except ε β) ∈ ys.map .ok := List.mem_map_of_mem hy
  rw [← map_of_mapM_eq_ok h] at hm
  exact List.mem_map.mp hm

theorem exists_ok_of_mapM_eq_ok {f : α → Except ε β} {xs : List α} {ys : List β}
    (h : xs.mapM f = .ok ys) {x : α} (hx : x ∈ xs) : ∃ y, f x = .ok y := by
  have hm : f x ∈ xs.map f := List.mem_map_of_mem hx
  rw [map_of_mapM_eq_ok h] at hm
  obtain ⟨y, -, hy⟩ := List.mem_map.mp hm
  exact ⟨y, hy.symm⟩

end SqlCompose
