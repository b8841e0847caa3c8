import SqlCompose.Builder
import SqlCompose.Proofs.Condition.Grammar

/-!
# Faults of steps

A step fails if its input cannot be read, or does not fit what it is for. What fails is said by
`Step.fault?` from the input and the command alone.

1. One step records its fault unless there is one already (`fault_apply`), and if it fails it
   leaves the clauses as they were (`statement_apply_of_fault?`).
2. So steps record the first of all faults (`fault_applyAll`).
-/

namespace SqlCompose

namespace Step

/-- The fault of a step behind a command, if it fails. -/
def fault? (command : Command) : Step → Option BuildError
  | .update values =>
    match values.read Assignment.listOfJson with
    | .ok as => if as.isEmpty then some .missingAssignments else none
    | .error e => some e
  | .insert values => (values.read Assignment.listOfJson).failure?
  | .onConflict keys action =>
    if !command.isInsert then some .conflictWithoutInsert
    else
      match action.read ConflictAction.ofJson with
      | .ok .keep => none
      | .ok (.update _) => if keys.toList.isEmpty then some .missingConflictTarget else none
      | .error e => some e
  | .filter conditions => (conditions.read Condition.listOfJson).failure?
  | .join joins => (joins.read Join.listOfJson).failure?
  | _ => none

/-- Does the step take the first row, whether it fails or not? -/
def takesRow : Step → Bool
  | .update _ => true
  | .insert _ => true
  | _ => false

end Step

namespace Builder

/-- The builder of a table after steps. -/
def ofSteps (config : Config) (table : String) (steps : List Step) : Builder :=
  (ofTable config table).applyAll steps

/-- The faults of the steps that fail, in order. -/
def faults (b : Builder) : List Step → List BuildError
  | [] => []
  | step :: steps => (step.fault? b.statement.command).toList ++ faults (b.apply step) steps

/-! ## Attempts -/

section Attempt

variable {α : Type} (b : Builder) (result : Except BuildError α) (f : α → Statement → Statement)

theorem fault_attempt : (b.attempt result f).fault = b.fault.or result.failure? := by
  cases result with
  | ok a => exact (Option.or_none).symm
  | error e => rfl

variable {b result f}

theorem statement_attempt_of_failure? {e : BuildError} (h : result.failure? = some e) :
    (b.attempt result f).statement = b.statement := by
  rw [Except.failure?_eq_some_iff.mp h]
  rfl

end Attempt

theorem failure?_nonEmpty (values : Input (List Assignment)) (command : Command) :
    ((values.read Assignment.listOfJson).bind nonEmpty).failure? =
      (Step.update values).fault? command := by
  unfold Step.fault?
  dsimp only
  cases values.read Assignment.listOfJson with
  | error e => rfl
  | ok as =>
    show (nonEmpty as).failure? = if as.isEmpty then _ else _
    unfold nonEmpty
    split <;> rfl

theorem failure?_readConflict (command : Command) (keys : Keys) (action : Input ConflictAction) :
    (readConflict command keys action).failure? =
      (Step.onConflict keys action).fault? command := by
  unfold readConflict Step.fault?
  dsimp only
  split
  · rfl
  · cases action.read ConflictAction.ofJson with
    | error e => rfl
    | ok a =>
      cases a with
      | keep => rfl
      | update as =>
        show (conflictOf keys.toList (.update as)).failure? = if keys.toList.isEmpty then _ else _
        unfold conflictOf
        dsimp only
        split <;> rfl

/-! ## Steps -/

/-- A step records its fault, unless there is one already. -/
theorem fault_apply (b : Builder) (step : Step) :
    (b.apply step).fault = b.fault.or (step.fault? b.statement.command) := by
  cases step with
  | update values =>
    rw [← failure?_nonEmpty]
    exact fault_attempt b _ _
  | insert values => exact fault_attempt b _ _
  | onConflict keys action =>
    rw [← failure?_readConflict]
    exact fault_attempt b _ _
  | filter conditions => exact fault_attempt b _ _
  | join joins => exact fault_attempt b _ _
  | _ => exact (Option.or_none).symm

/-- A step that fails adds nothing. -/
theorem statement_apply_of_fault? {b : Builder} {step : Step} {e : BuildError}
    (h : step.fault? b.statement.command = some e) :
    (b.apply step).statement =
      if step.takesRow then { b.statement with first := some .row } else b.statement := by
  cases step with
  | update values =>
    rw [← failure?_nonEmpty] at h
    show { (b.attempt _ _).statement with first := some First.row } = _
    rw [statement_attempt_of_failure? h]
    rfl
  | insert values =>
    show { (b.attempt _ _).statement with first := some First.row } = _
    rw [statement_attempt_of_failure? h]
    rfl
  | onConflict keys action =>
    rw [← failure?_readConflict] at h
    exact statement_attempt_of_failure? h
  | filter conditions => exact statement_attempt_of_failure? h
  | join joins => exact statement_attempt_of_failure? h
  | _ => cases h

/-! ## Runs -/

theorem applyAll_append (b : Builder) (before after : List Step) :
    b.applyAll (before ++ after) = (b.applyAll before).applyAll after := List.foldl_append

/-- Steps record the first of all their faults, unless there is one already. -/
theorem fault_applyAll (b : Builder) (steps : List Step) :
    (b.applyAll steps).fault = b.fault.or (b.faults steps).head? := by
  induction steps generalizing b with
  | nil => exact (Option.or_none).symm
  | cons step steps ih =>
    show ((b.apply step).applyAll steps).fault = _
    rw [ih, fault_apply, Option.or_assoc, faults, List.head?_append]
    cases step.fault? b.statement.command <;> rfl

theorem fault_applyAll_of_eq_some {b : Builder} {e : BuildError} (h : b.fault = some e)
    (steps : List Step) : (b.applyAll steps).fault = some e := by
  rw [fault_applyAll, h]
  rfl

theorem build_of_fault {b : Builder} {e : BuildError} (h : b.fault = some e) :
    b.build = .error e := by
  unfold build
  rw [h]

theorem fault_eq_none_of_build {b : Builder} {q : Query} (h : b.build = .ok q) :
    b.fault = none := by
  cases hf : b.fault with
  | none => rfl
  | some e =>
    rw [build_of_fault hf] at h
    cases h

/-! ## Arrays -/

/-- Conditions in an array of which one is wrong are not read. -/
theorem exists_fault?_filter {items : List Json} {j : Json} (hj : j ∈ items) {e : BuildError}
    (he : Condition.listOfJson j = .error e) (command : Command) :
    ∃ e', (Step.filter (.json (.array items))).fault? command = some e' := by
  show ∃ e', (Condition.listOfJson (.array items)).failure? = some e'
  cases hc : Condition.listOfJson (.array items) with
  | error e' => exact ⟨e', rfl⟩
  | ok cs =>
    obtain ⟨hg⟩ := (Condition.exists_listOfJson_iff _).mp ⟨cs, hc⟩
    obtain ⟨ds, hd⟩ := (Condition.exists_listOfJson_iff j).mpr (hg j hj)
    rw [hd] at he
    cases he

/-- Joins in an array of which one is wrong are not read. -/
theorem exists_fault?_join {items : List Json} {j : Json} (hj : j ∈ items) (hn : j.isNull = false)
    {e : BuildError} (he : Join.ofJson j = .error e) (command : Command) :
    ∃ e', (Step.join (.json (.array items))).fault? command = some e' := by
  show ∃ e', (Join.listOfJson (.array items)).failure? = some e'
  cases hc : Join.listOfJson (.array items) with
  | error e' => exact ⟨e', rfl⟩
  | ok joins =>
    have hm : j ∈ items.filter (!·.isNull) := List.mem_filter.mpr ⟨hj, by rw [hn]; rfl⟩
    obtain ⟨join, hok⟩ := exists_ok_of_mapM_eq_ok hc hm
    rw [he] at hok
    cases hok

/-- Steps record the fault of the first of them that fails, if one does. It stays whatever follows,
and is what building gives. A step that fails leaves all clauses as they were and at most takes the
first row; so does a step with an array of conditions or joins of which one is wrong. -/
theorem ofSteps_keeps_first_fault (config : Config) (table : String) (before : List Step) :
    (ofSteps config table before).fault = ((ofTable config table).faults before).head? ∧
    (∀ e, (ofSteps config table before).fault = some e →
      (∀ after, (ofSteps config table (before ++ after)).fault = some e ∧
        (ofSteps config table (before ++ after)).build = .error e)) ∧
    (∀ step e, step.fault? (ofSteps config table before).statement.command = some e →
      (ofSteps config table (before ++ [step])).statement =
        if step.takesRow then { (ofSteps config table before).statement with first := some .row }
        else (ofSteps config table before).statement) ∧
    (∀ items, (∃ j ∈ items, ∃ e, Condition.listOfJson j = .error e) →
      (ofSteps config table (before ++ [.filter (.json (.array items))])).statement =
        (ofSteps config table before).statement ∧
      ∃ e, (ofSteps config table (before ++ [.filter (.json (.array items))])).fault = some e) ∧
    ∀ items, (∃ j ∈ items, j.isNull = false ∧ ∃ e, Join.ofJson j = .error e) →
      (ofSteps config table (before ++ [.join (.json (.array items))])).statement =
        (ofSteps config table before).statement ∧
      ∃ e, (ofSteps config table (before ++ [.join (.json (.array items))])).fault = some e := by
  have hstep (step : Step) : ofSteps config table (before ++ [step]) =
      (ofSteps config table before).apply step := applyAll_append _ before [step]
  refine ⟨fault_applyAll _ before, ?_, ?_, ?_, ?_⟩
  · intro e he after
    have ha : (ofSteps config table (before ++ after)).fault = some e := by
      unfold ofSteps
      rw [applyAll_append]
      exact fault_applyAll_of_eq_some he after
    exact ⟨ha, build_of_fault ha⟩
  · intro step e he
    rw [hstep]
    exact statement_apply_of_fault? he
  · rintro items ⟨j, hj, e, he⟩
    obtain ⟨e', hf⟩ := exists_fault?_filter hj he (ofSteps config table before).statement.command
    rw [hstep, fault_apply, hf, Option.or_some]
    exact ⟨statement_apply_of_fault? hf, _, rfl⟩
  · rintro items ⟨j, hj, hn, e, he⟩
    obtain ⟨e', hf⟩ := exists_fault?_join hj hn he (ofSteps config table before).statement.command
    rw [hstep, fault_apply, hf, Option.or_some]
    exact ⟨statement_apply_of_fault? hf, _, rfl⟩

/-- Joins of which the second has no table. -/
def rolesAndNothing : Input (List Join) :=
  .json (.array [.object [("table", .string "roles")], .object []])

theorem ofSteps_rolesAndNothing :
    (∃ e, Join.ofJson (.object []) = .error e) ∧
      ∀ after, (ofSteps {} "users" ([.filter (.json .null)] ++ after)).build =
          .error .missingConditions ∧
        (ofSteps {} "users" [.filter (.json .null), .join rolesAndNothing]).statement =
          { table := "users" } := by
  obtain ⟨hf, hk, -, -, hj⟩ := ofSteps_keeps_first_fault {} "users" [.filter (.json .null)]
  have he : Join.ofJson (.object []) = .error .missingJoinTable := rfl
  refine ⟨⟨_, he⟩, fun after => ⟨(hk _ hf after).2, ?_⟩⟩
  exact (hj _ ⟨.object [], .tail _ (.head _), rfl, _, he⟩).1

end Builder

end SqlCompose
