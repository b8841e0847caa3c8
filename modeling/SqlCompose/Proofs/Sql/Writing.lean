import SqlCompose.Proofs.Sql.Renumbering
import SqlCompose.Proofs.Sql.Spaced

/-!
# Writing in steps

Text is written in steps, each of which goes on with the parameters that the steps before it left,
up to the first that fails. A step may have the outcome that it has behind no parameters at all, but
for the numbers of its placeholders: so it does if it is its own relocation (`Writing.relocated`).
-/

namespace SqlCompose

theorem Params.append_append (p : Params) (vs ws : List Value) :
    (p.append vs).append ws = p.append (vs ++ ws) := congrArg mk (List.append_assoc _ _ _)

/-- A step of writing, behind the parameters so far. -/
abbrev Writing := ExceptT BuildError (StateM Params)

namespace Writing

variable {α β : Type}

/-- The outcome behind the parameters `p`, and the parameters then. -/
def behind (w : Writing α) (p : Params) : Except BuildError α × Params := (ExceptT.run w).run p

theorem ext {w v : Writing α} (h : ∀ p, w.behind p = v.behind p) : w = v := funext h

theorem behind_pure (a : α) (p : Params) : (pure a : Writing α).behind p = (.ok a, p) := rfl

theorem behind_bind (w : Writing α) (f : α → Writing β) (p : Params) :
    (w >>= f).behind p = match w.behind p with
      | (.ok a, q) => (f a).behind q
      | (.error err, q) => (.error err, q) := by
  unfold behind ExceptT.run StateT.run
  simp only [bind, ExceptT.bind, ExceptT.mk, ExceptT.bindCont, StateT.bind]
  cases w p with
  | mk result q => cases result <;> rfl

theorem behind_bind_of_ok {w : Writing α} {p q : Params} {a : α} (h : w.behind p = (.ok a, q))
    (f : α → Writing β) : (w >>= f).behind p = (f a).behind q := by
  rw [behind_bind, h]

theorem behind_bind_of_error {w : Writing α} {p : Params} {err : BuildError}
    (h : (w.behind p).1 = .error err) (f : α → Writing β) :
    ((w >>= f).behind p).1 = .error err := by
  rw [behind_bind]
  cases hw : w.behind p with
  | mk result q =>
    rw [hw] at h
    cases h
    rfl

theorem mapM_congr {f g : α → Writing β} {xs : List α} (h : ∀ x ∈ xs, f x = g x) :
    xs.mapM f = xs.mapM g := by
  induction xs with
  | nil => rfl
  | cons x xs ih =>
    rw [List.mapM_cons, List.mapM_cons, h x List.mem_cons_self,
      ih fun y hy => h y (List.mem_cons_of_mem x hy)]

/-- The step with the outcome that it has behind no parameters, moved behind those there are: the
placeholders in its text are renumbered, and its values follow. -/
def relocated (w : Writing String) : Writing String :=
  ExceptT.mk fun p => ((w.behind .empty).1.map (renumbered p.size),
    p.append (w.behind .empty).2.values)

/-- The query that a step makes from no parameters, with the text that `f` makes of its text. -/
def toQuery (w : Writing String) (f : String → String) : Except BuildError Query :=
  (w.behind .empty).1.map fun t => ⟨f t, (w.behind .empty).2.values⟩

/-- The step writes the SQL `x`, or fails where there is none. -/
structure Writes (w : Writing String) (x : Except BuildError Sql) : Prop where
  ok : ∀ {s : Sql}, x = .ok s → ∀ p, w.behind p = (.ok (s.render p).1, p.append s.values)
  error : ∀ {err : BuildError}, x = .error err → ∀ p, (w.behind p).1 = .error err

section Steps

variable {f : α → Writing String} {g : α → Except BuildError Sql} {xs : List α}
  (h : ∀ x ∈ xs, Writes (f x) (g x))

include h

/-- Steps taken in order write parts one behind the other. -/
theorem mapM_of_ok {ss : List Sql} (hg : xs.mapM g = .ok ss) (p : Params) :
    (xs.mapM f).behind p = (.ok (Sql.texts p ss), p.append (ss.flatMap Sql.values)) := by
  induction xs generalizing ss p with
  | nil =>
    cases hg
    exact congrArg (Prod.mk _) (Params.append_nil p).symm
  | cons x xs ih =>
    rw [List.mapM_cons] at hg
    obtain ⟨s, hs, hg⟩ := bind_eq_ok hg
    obtain ⟨ss, hss, hg⟩ := bind_eq_ok hg
    cases hg
    have hr := ih (fun y hy => h y (List.mem_cons_of_mem x hy)) hss (p.append s.values)
    rw [List.mapM_cons, behind_bind_of_ok ((h x List.mem_cons_self).ok hs p),
      behind_bind_of_ok hr, behind_pure, List.flatMap_cons, Params.append_append]
    rfl

theorem mapM_of_error {err : BuildError} (hg : xs.mapM g = .error err) (p : Params) :
    ((xs.mapM f).behind p).1 = .error err := by
  induction xs generalizing p with
  | nil => cases hg
  | cons x xs ih =>
    have hx := h x List.mem_cons_self
    rw [List.mapM_cons] at hg ⊢
    cases hs : g x with
    | error e =>
      rw [hs] at hg
      cases hg
      exact behind_bind_of_error (hx.error hs p) _
    | ok s =>
      rw [hs] at hg
      rw [behind_bind_of_ok (hx.ok hs p)]
      refine behind_bind_of_error (ih (fun y hy => h y (List.mem_cons_of_mem x hy)) ?_ _) _
      cases hss : xs.mapM g with
      | error e =>
        rw [hss] at hg
        cases hg
        rfl
      | ok ss =>
        rw [hss] at hg
        cases hg

end Steps

end Writing

end SqlCompose
