import Mathlib.Logic.Relation
import SqlCompose.Proofs.Builder.Field

/-!
# Steps in another order

Steps of eight kinds change one clause each. What such a step makes of its clause, and whether it
fails, depends on nothing else (`Step.exists_modify`, `Step.fault?_of_kind`).

1. Two of these steps of different kinds can be exchanged (`Builder.edit_comm`).
2. Lists with the same steps of each kind, in the same order, are turned into each other by
   exchanges of neighbours (`Step.SameByKind.exchanges`).
3. What one exchange leaves as it is, all of them do, so such lists leave the same statement, and
   the same steps of them fail (`Builder.applyAll_of_sameByKind`).
-/

namespace SqlCompose

/-- The kinds of steps that change one clause. -/
inductive StepKind where
  | select
  | filter
  | join
  | sorted
  | groupBy
  | offsetBy
  | limitTo
  | delete
  deriving DecidableEq, Repr

namespace StepKind

/-- What the clause of a kind holds. -/
def Clause : StepKind → Type
  | select => List String
  | filter => List Condition
  | join => List Join
  | sorted => List String
  | groupBy => Option String
  | offsetBy => Nat
  | limitTo => Option Nat
  | delete => Command

/-- The statement with the clause of a kind changed. -/
def modify : (k : StepKind) → (k.Clause → k.Clause) → Statement → Statement
  | select, f, s => { s with keys := f s.keys }
  | filter, f, s => { s with conditions := f s.conditions }
  | join, f, s => { s with joins := f s.joins }
  | sorted, f, s => { s with sorting := f s.sorting }
  | groupBy, f, s => { s with groupBy := f s.groupBy }
  | offsetBy, f, s => { s with offset := f s.offset }
  | limitTo, f, s => { s with limit := f s.limit }
  | delete, f, s => { s with command := f s.command }

theorem modify_comm {k l : StepKind} (h : k ≠ l) (f : k.Clause → k.Clause)
    (g : l.Clause → l.Clause) (s : Statement) :
    l.modify g (k.modify f s) = k.modify f (l.modify g s) := by
  cases k <;> cases l <;> first | rfl | exact absurd rfl h

end StepKind

namespace Builder

/-- What a step makes of a statement, whether it fails or not. -/
def edit (config : Config) (s : Statement) (step : Step) : Statement :=
  (apply ⟨config, s, none⟩ step).statement

theorem statement_attempt_eq {α : Type} (b : Builder) (result : Except BuildError α)
    (f : α → Statement → Statement) :
    (b.attempt result f).statement =
      (attempt ⟨b.config, b.statement, none⟩ result f).statement := by
  cases result <;> rfl

/-- A fault that was there before changes nothing. -/
theorem statement_apply (b : Builder) (step : Step) :
    (b.apply step).statement = edit b.config b.statement step := by
  let takeRow (s : Statement) : Statement := { s with first := some .row }
  cases step with
  | update values => exact congrArg takeRow (statement_attempt_eq b _ _)
  | insert values => exact congrArg takeRow (statement_attempt_eq b _ _)
  | onConflict keys action => exact statement_attempt_eq b _ _
  | filter conditions => exact statement_attempt_eq b _ _
  | join joins => exact statement_attempt_eq b _ _
  | _ => rfl

theorem statement_applyAll (b : Builder) (steps : List Step) :
    (b.applyAll steps).statement = steps.foldl (edit b.config) b.statement := by
  induction steps generalizing b with
  | nil => rfl
  | cons step steps ih =>
    show ((b.apply step).applyAll steps).statement = _
    rw [ih, config_apply, statement_apply]
    rfl

end Builder

namespace Step

/-- The kind of a step, if it changes one clause only. -/
def kind? : Step → Option StepKind
  | .select _ => some .select
  | .filter _ => some .filter
  | .join _ => some .join
  | .sorted _ => some .sorted
  | .groupBy _ => some .groupBy
  | .offsetBy _ => some .offsetBy
  | .limitTo _ => some .limitTo
  | .delete => some .delete
  | _ => none

section Kind

variable {step : Step} {k : StepKind} (hk : step.kind? = some k)

include hk

/-- A step of a kind changes the clause of that kind, by what the clause holds. -/
theorem exists_modify : ∃ f, ∀ config s, Builder.edit config s step = k.modify f s := by
  cases step with
  | select keys =>
    cases hk
    exact ⟨fun ks : List String => ks ++ keys.toList, fun _ _ => rfl⟩
  | filter conditions =>
    cases hk
    show ∃ f, ∀ config s, (Builder.attempt ⟨config, s, none⟩ _ _).statement = _
    cases conditions.read Condition.listOfJson with
    | ok cs => exact ⟨fun ds : List Condition => ds ++ cs, fun _ _ => rfl⟩
    | error e => exact ⟨id, fun _ _ => rfl⟩
  | join joins =>
    cases hk
    show ∃ f, ∀ config s, (Builder.attempt ⟨config, s, none⟩ _ _).statement = _
    cases joins.read Join.listOfJson with
    | ok js => exact ⟨fun ks : List Join => ks ++ js, fun _ _ => rfl⟩
    | error e => exact ⟨id, fun _ _ => rfl⟩
  | sorted keys =>
    cases hk
    exact ⟨fun _ => keys.toList, fun _ _ => rfl⟩
  | groupBy key =>
    cases hk
    exact ⟨fun _ => some key, fun _ _ => rfl⟩
  | offsetBy n =>
    cases hk
    exact ⟨fun _ => n, fun _ _ => rfl⟩
  | limitTo n =>
    cases hk
    exact ⟨fun _ => some n, fun _ _ => rfl⟩
  | delete =>
    cases hk
    exact ⟨fun _ => Command.delete, fun _ _ => rfl⟩
  | _ => cases hk

/-- The command does not decide whether a step of a kind fails. -/
theorem fault?_of_kind (c d : Command) : step.fault? c = step.fault? d := by
  cases step with
  | onConflict keys action => cases hk
  | _ => rfl

end Kind

/-! ## Exchanges -/

/-- Two neighbours of different kinds are exchanged. -/
inductive Exchange : List Step → List Step → Prop where
  | mk {s t : Step} {k l : StepKind} (before after : List Step) (hs : s.kind? = some k)
    (ht : t.kind? = some l) (h : k ≠ l) :
    Exchange (before ++ s :: t :: after) (before ++ t :: s :: after)

/-- Two lists have steps of the eight kinds only, and the same ones of each kind in the same
order. -/
structure SameByKind (xs ys : List Step) : Prop where
  left : ∀ step ∈ xs, step.kind?.isSome
  right : ∀ step ∈ ys, step.kind?.isSome
  same : ∀ k, xs.filter (·.kind? = some k) = ys.filter (·.kind? = some k)

open Relation

theorem Exchange.cons {xs ys : List Step} (s : Step) (h : Exchange xs ys) :
    Exchange (s :: xs) (s :: ys) := by
  obtain ⟨before, after, hs, ht, h⟩ := h
  exact .mk (s :: before) after hs ht h

theorem exchanges_cons {xs ys : List Step} (s : Step) (h : ReflTransGen Exchange xs ys) :
    ReflTransGen Exchange (s :: xs) (s :: ys) :=
  h.lift (s :: ·) fun _ _ => Exchange.cons s

/-- A step can be brought in front of steps of other kinds. -/
theorem exchanges_middle {s : Step} {k : StepKind} (hs : s.kind? = some k) {before : List Step}
    (hb : ∀ t ∈ before, t.kind?.isSome ∧ t.kind? ≠ some k) (after : List Step) :
    ReflTransGen Exchange (before ++ s :: after) (s :: (before ++ after)) := by
  induction before with
  | nil => exact .refl
  | cons t before ih =>
    obtain ⟨⟨hs', hn⟩, hb⟩ := List.forall_mem_cons.mp hb
    obtain ⟨l, ht⟩ := Option.isSome_iff_exists.mp hs'
    have hlk : l ≠ k := fun h => hn (h ▸ ht)
    exact (exchanges_cons t (ih hb)).tail (.mk [] (before ++ after) ht hs hlk)

/-- Where the first step of one list stands in the other, behind steps of other kinds. -/
theorem SameByKind.exists_eq_append {s : Step} {xs ys : List Step} (h : SameByKind (s :: xs) ys) :
    ∃ before after, ys = before ++ s :: after ∧
      (∀ t ∈ before, t.kind? ≠ s.kind?) ∧ SameByKind xs (before ++ after) := by
  obtain ⟨k, hk⟩ := Option.isSome_iff_exists.mp (h.left s List.mem_cons_self)
  have hf := h.same k
  rw [List.filter_cons_of_pos (by simp [hk])] at hf
  obtain ⟨before, after, rfl, hb, -, ha⟩ := List.filter_eq_cons_iff.mp hf.symm
  have hn : ∀ t ∈ before, t.kind? ≠ some k := fun t ht he => hb t ht (by simp [he])
  refine ⟨before, after, rfl, fun t ht => hk ▸ hn t ht, ?_, ?_, fun l => ?_⟩
  · exact fun t ht => h.left t (List.mem_cons_of_mem s ht)
  · intro t ht
    refine h.right t ?_
    simp only [List.mem_append, List.mem_cons] at ht ⊢
    tauto
  · by_cases hl : l = k
    · subst hl
      have he : before.filter (·.kind? = some l) = [] := by simpa using hn
      rw [List.filter_append, he, List.nil_append, ha]
    · have hs : ¬ (s.kind? = some l) := fun he => hl (Option.some.inj (he.symm.trans hk))
      have hsame := h.same l
      rw [List.filter_append, List.filter_cons_of_neg (by simpa using hs),
        List.filter_cons_of_neg (by simpa using hs)] at hsame
      rw [hsame, List.filter_append]

theorem SameByKind.exchanges {xs ys : List Step} (h : SameByKind xs ys) :
    ReflTransGen Exchange ys xs := by
  induction xs generalizing ys with
  | nil =>
    cases ys with
    | nil => exact .refl
    | cons t ys =>
      obtain ⟨k, hk⟩ := Option.isSome_iff_exists.mp (h.right t List.mem_cons_self)
      have hf := h.same k
      rw [List.filter_cons_of_pos (by simp [hk])] at hf
      cases hf
  | cons s xs ih =>
    obtain ⟨k, hk⟩ := Option.isSome_iff_exists.mp (h.left s List.mem_cons_self)
    obtain ⟨before, after, rfl, hb, hsame⟩ := h.exists_eq_append
    have hm : ∀ t ∈ before, t.kind?.isSome ∧ t.kind? ≠ some k := fun t ht =>
      ⟨h.right t (List.mem_append_left _ ht), hk ▸ hb t ht⟩
    exact (exchanges_middle hk hm after).trans (exchanges_cons s (ih hsame))

end Step

namespace Builder

open Relation Step

/-- Steps of different kinds can be exchanged. -/
theorem edit_comm (config : Config) (st : Statement) {s t : Step} {k l : StepKind}
    (hs : s.kind? = some k) (ht : t.kind? = some l) (h : k ≠ l) :
    edit config (edit config st s) t = edit config (edit config st t) s := by
  obtain ⟨f, hf⟩ := exists_modify hs
  obtain ⟨g, hg⟩ := exists_modify ht
  rw [hf, hg, hg, hf, StepKind.modify_comm h]

theorem foldl_edit_of_exchange (config : Config) (st : Statement) {xs ys : List Step}
    (h : Exchange xs ys) : xs.foldl (edit config) st = ys.foldl (edit config) st := by
  obtain ⟨before, after, hs, ht, h⟩ := h
  rw [List.foldl_append, List.foldl_append, List.foldl_cons, List.foldl_cons, List.foldl_cons,
    List.foldl_cons, edit_comm config _ hs ht h]

theorem foldl_edit_of_exchanges (config : Config) (st : Statement) {xs ys : List Step}
    (h : ReflTransGen Exchange xs ys) :
    xs.foldl (edit config) st = ys.foldl (edit config) st := by
  induction h with
  | refl => rfl
  | tail _ hstep ih => exact ih.trans (foldl_edit_of_exchange config st hstep)

/-- Steps of the eight kinds fail by themselves, whatever was built before. -/
theorem faults_eq_filterMap {steps : List Step} (h : ∀ step ∈ steps, step.kind?.isSome)
    (b : Builder) (c : Command) : b.faults steps = steps.filterMap (Step.fault? c) := by
  induction steps generalizing b with
  | nil => rfl
  | cons step steps ih =>
    obtain ⟨hs, hr⟩ := List.forall_mem_cons.mp h
    obtain ⟨k, hk⟩ := Option.isSome_iff_exists.mp hs
    rw [faults, ih hr, fault?_of_kind hk _ c, List.filterMap_cons]
    cases step.fault? c <;> rfl

theorem perm_of_exchange {xs ys : List Step} (h : Exchange xs ys) : xs.Perm ys := by
  obtain ⟨before, after, -, -, -⟩ := h
  exact (List.Perm.swap _ _ _).append_left before

theorem perm_of_exchanges {xs ys : List Step} (h : ReflTransGen Exchange xs ys) : xs.Perm ys := by
  induction h with
  | refl => exact .refl _
  | tail _ hstep ih => exact ih.trans (perm_of_exchange hstep)

/-- Two lists of steps that have the same steps of each of the eight kinds, in the same order. The
same of them fail, so one leaves no fault if and only if the other does not. The statement they
leave is the same even if some fail, and so is what building gives if none does. -/
theorem applyAll_of_sameByKind {xs ys : List Step} (h : SameByKind xs ys) (b : Builder) :
    (b.faults xs).Perm (b.faults ys) ∧
    ((b.applyAll xs).fault = none ↔ (b.applyAll ys).fault = none) ∧
    (b.applyAll xs).statement = (b.applyAll ys).statement ∧
    ((b.applyAll xs).fault = none → (b.applyAll xs).build = (b.applyAll ys).build) := by
  have hp : (b.faults xs).Perm (b.faults ys) := by
    rw [faults_eq_filterMap h.left b .select, faults_eq_filterMap h.right b .select]
    exact (perm_of_exchanges h.exchanges).symm.filterMap _
  have hf : (b.applyAll xs).fault = none ↔ (b.applyAll ys).fault = none := by
    have hn : b.faults xs = [] ↔ b.faults ys = [] := by
      rw [← List.length_eq_zero_iff, hp.length_eq, List.length_eq_zero_iff]
    rw [fault_applyAll, fault_applyAll, Option.or_eq_none_iff, Option.or_eq_none_iff,
      List.head?_eq_none_iff, List.head?_eq_none_iff, hn]
  have hs : (b.applyAll xs).statement = (b.applyAll ys).statement := by
    rw [statement_applyAll, statement_applyAll]
    exact (foldl_edit_of_exchanges b.config b.statement h.exchanges).symm
  refine ⟨hp, hf, hs, fun hx => ?_⟩
  rw [build_of_fault_eq_none hx, build_of_fault_eq_none (hf.mp hx), hs, config_applyAll,
    config_applyAll]

/-- Users and their roles, from the newest down. -/
def newestUsers : List Step :=
  [.select (.text "id"), .join (.data [.inner "roles"]), .sorted (.text "-createdAt"),
    .select (.text "name"), .limitTo 10, .filter (.json (.object [("age", .null)])), .limitTo 5]

/-- The same steps in another order. -/
def newestUsersReordered : List Step :=
  [.limitTo 10, .filter (.json (.object [("age", .null)])), .select (.text "id"),
    .sorted (.text "-createdAt"), .limitTo 5, .select (.text "name"),
    .join (.data [.inner "roles"])]

theorem applyAll_newestUsersReordered :
    SameByKind newestUsers newestUsersReordered ∧
    ((ofTable {} "users").applyAll newestUsers).fault = none ∧
    ((ofTable {} "users").applyAll newestUsers).statement.keys = ["id", "name"] ∧
    ((ofTable {} "users").applyAll newestUsers).statement.limit = some 5 ∧
    ((ofTable {} "users").applyAll newestUsers).build =
      ((ofTable {} "users").applyAll newestUsersReordered).build := by
  have h : SameByKind newestUsers newestUsersReordered := by
    refine ⟨by decide, by decide, fun k => ?_⟩
    cases k <;> rfl
  have hn : ((ofTable {} "users").applyAll newestUsers).fault = none := rfl
  obtain ⟨-, -, -, hb⟩ := applyAll_of_sameByKind h (ofTable {} "users")
  exact ⟨h, hn, by decide +kernel, rfl, hb hn⟩

end Builder

end SqlCompose
