import SqlCompose.Proofs.Builder.Rejection

/-!
# Fields that steps set

Some fields of a statement are set by steps of one kind and left alone by all others. What a run
leaves in such a field is what the last of these steps set it to (`Builder.field_applyAll`).
-/

namespace SqlCompose

namespace Step

/-- The keys that the step sorts by, if it sorts. -/
def sorting? : Step → Option (List String)
  | .sorted keys => some keys.toList
  | _ => none

/-- The number of rows that the step skips, if it says one. -/
def offset? : Step → Option Nat
  | .offsetBy n => some n
  | .paginated page => some page.offset
  | _ => none

/-- Does the step handle a conflict? -/
def handlesConflict : Step → Bool
  | .onConflict _ _ => true
  | _ => false

/-- The conflict that the step handles, if it handles one that can be read. -/
def conflict? : Step → Option Conflict
  | .onConflict keys action =>
    ((action.read ConflictAction.ofJson).bind (Builder.conflictOf keys.toList)).toOption
  | _ => none

end Step

namespace Builder

variable {b : Builder} {steps : List Step}

theorem config_attempt {α : Type} (b : Builder) (result : Except BuildError α)
    (f : α → Statement → Statement) : (b.attempt result f).config = b.config := by
  cases result <;> rfl

/-- No step changes the configuration. -/
theorem config_apply (b : Builder) (step : Step) : (b.apply step).config = b.config := by
  cases step with
  | update values => exact config_attempt b _ _
  | insert values => exact config_attempt b _ _
  | onConflict keys action => exact config_attempt b _ _
  | filter conditions => exact config_attempt b _ _
  | join joins => exact config_attempt b _ _
  | _ => rfl

theorem config_applyAll (b : Builder) (steps : List Step) :
    (b.applyAll steps).config = b.config := by
  induction steps generalizing b with
  | nil => rfl
  | cons step steps ih => exact (ih (b.apply step)).trans (config_apply b step)

theorem fault_eq_none_of_applyAll (h : (b.applyAll steps).fault = none) : b.fault = none := by
  rw [fault_applyAll] at h
  exact (Option.or_eq_none_iff.mp h).1

/-- A field that each step sets or leaves alone is what the last of the steps that set it says. -/
theorem field_applyAll {α : Type} {field : Statement → α} {set? : Step → Option α}
    (hstep : ∀ (b : Builder) (step : Step), (b.apply step).fault = none →
      field (b.apply step).statement = (set? step).getD (field b.statement))
    (h : (b.applyAll steps).fault = none) :
    field (b.applyAll steps).statement =
      (steps.filterMap set?).getLast?.getD (field b.statement) := by
  induction steps generalizing b with
  | nil => rfl
  | cons step steps ih =>
    have hs := hstep b step (fault_eq_none_of_applyAll h)
    show field ((b.apply step).applyAll steps).statement = _
    rw [ih h, hs, List.filterMap_cons]
    cases set? step with
    | none => rfl
    | some a =>
      dsimp only
      rw [List.getLast?_cons]
      rfl

/-! ## Steps -/

theorem sorting_apply (b : Builder) (step : Step) :
    (b.apply step).statement.sorting = step.sorting?.getD b.statement.sorting := by
  cases step with
  | update values => exact field_attempt Statement.sorting fun _ => rfl
  | insert values => exact field_attempt Statement.sorting fun _ => rfl
  | onConflict keys action => exact field_attempt Statement.sorting fun _ => rfl
  | filter conditions => exact field_attempt Statement.sorting fun _ => rfl
  | join joins => exact field_attempt Statement.sorting fun _ => rfl
  | _ => rfl

theorem offset_apply (b : Builder) (step : Step) :
    (b.apply step).statement.offset = step.offset?.getD b.statement.offset := by
  cases step with
  | update values => exact field_attempt Statement.offset fun _ => rfl
  | insert values => exact field_attempt Statement.offset fun _ => rfl
  | onConflict keys action => exact field_attempt Statement.offset fun _ => rfl
  | filter conditions => exact field_attempt Statement.offset fun _ => rfl
  | join joins => exact field_attempt Statement.offset fun _ => rfl
  | _ => rfl

/-- A step for a conflict sets it, unless the step is at fault. -/
theorem conflict_apply (b : Builder) (step : Step) (h : (b.apply step).fault = none) :
    (b.apply step).statement.conflict =
      (if step.handlesConflict then some step.conflict? else none).getD b.statement.conflict := by
  cases step with
  | update values => exact field_attempt Statement.conflict fun _ => rfl
  | insert values => exact field_attempt Statement.conflict fun _ => rfl
  | filter conditions => exact field_attempt Statement.conflict fun _ => rfl
  | join joins => exact field_attempt Statement.conflict fun _ => rfl
  | onConflict keys action =>
    have hf : (readConflict b.statement.command keys action).failure? = none := by
      rw [failure?_readConflict]
      rw [fault_apply] at h
      exact (Option.or_eq_none_iff.mp h).2
    obtain ⟨c, hc⟩ := Except.failure?_eq_none_iff.mp hf
    have hs : (b.apply (.onConflict keys action)).statement.conflict = some c := by
      show (b.attempt _ _).statement.conflict = _
      rw [hc]
      rfl
    have hr : (Step.onConflict keys action).conflict? = some c := by
      unfold readConflict at hc
      split at hc
      · cases hc
      · rw [Step.conflict?, hc]
        rfl
    rw [hs, hr]
    rfl
  | _ => rfl

/-- The conflict that steps leave is that of the last of them for a conflict. -/
theorem conflict_ofSteps {config : Config} {table : String}
    (h : (ofSteps config table steps).fault = none) :
    (ofSteps config table steps).statement.conflict =
      (steps.filter Step.handlesConflict).getLast?.bind Step.conflict? := by
  have hm (step : Step) : (if step.handlesConflict then some step.conflict? else none) =
      (Option.guard Step.handlesConflict step).map Step.conflict? := by
    unfold Option.guard
    split <;> rfl
  have hc := field_applyAll conflict_apply h
  rw [List.filterMap_congr fun step _ => hm step, ← List.map_filterMap, List.filterMap_eq_filter,
    List.getLast?_map] at hc
  refine hc.trans ?_
  cases (steps.filter Step.handlesConflict).getLast? <;> rfl

end Builder

end SqlCompose
