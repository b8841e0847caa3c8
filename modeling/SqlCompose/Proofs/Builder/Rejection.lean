import SqlCompose.Proofs.Builder.Fault
import SqlCompose.Proofs.Statement.Fault

/-!
# What building can still reject

Steps without a fault need not give a statement that can be written. They check their input and the
command before them, so an update has assignments and an update on conflict has a target whatever
the steps were (`isComplete_applyAll`). What is left is checked when the statement is written: that
a conflict is still behind an insert, that joins have tables, and that null values can be tested.

Of joins only those that were not read from JSON can be without a table (`joins_applyAll`,
`exists_join_data_of_mem_joins`).
-/

namespace SqlCompose

/-! ## Joins of JSON values -/

namespace Join

theorem textField?_ne_empty {key : String} {es : List (String × Json)} {s : String}
    (h : textField? key es = some s) : s ≠ "" := by
  unfold textField? at h
  split at h
  · rename_i t _
    split at h
    · cases h
    · rename_i he
      cases h
      rintro rfl
      exact he rfl
  · cases h

theorem table_ne_empty_of_ofJson {v : Json} {j : Join} (h : ofJson v = .ok j) : j.table ≠ "" := by
  unfold ofJson at h
  split at h
  · rename_i es
    cases hf : textField? "table" es with
    | none =>
      rw [hf] at h
      cases h
    | some table =>
      rw [hf] at h
      obtain ⟨table', ht, h⟩ := bind_eq_ok h
      obtain ⟨required, -, h⟩ := bind_eq_ok h
      obtain ⟨on, -, h⟩ := bind_eq_ok h
      cases ht
      cases h
      exact textField?_ne_empty hf
  · cases h

/-- A join of a JSON value has a table. -/
theorem table_ne_empty_of_listOfJson {v : Json} {joins : List Join}
    (h : listOfJson v = .ok joins) : ∀ j ∈ joins, j.table ≠ "" := by
  intro j hj
  unfold listOfJson at h
  split at h
  · cases h
    cases hj
  · obtain ⟨v, -, hv⟩ := exists_mem_of_mapM_eq_ok h hj
    exact table_ne_empty_of_ofJson hv
  · obtain ⟨k, hk, rfl⟩ := map_eq_ok h
    rw [List.mem_singleton.mp hj]
    exact table_ne_empty_of_ofJson hk

end Join

/-! ## Complete statements -/

namespace Statement

/-- An update assigns something, and an update on conflict has a target. -/
structure IsComplete (s : Statement) : Prop where
  assigned : ∀ as, s.command = .update as → as ≠ []
  targeted : ∀ keys as, s.conflict = some ⟨keys, .update as⟩ → keys ≠ []

variable {s t : Statement}

theorem IsComplete.of_eq (h : s.IsComplete) (hc : t.command = s.command)
    (hk : t.conflict = s.conflict) : t.IsComplete where
  assigned as ha := h.assigned as (hc ▸ ha)
  targeted keys as ha := h.targeted keys as (hk ▸ ha)

theorem IsComplete.faults_command (h : s.IsComplete) : s.command.faults = [] := by
  cases hc : s.command with
  | update as => exact if_neg fun he => h.assigned as hc (List.isEmpty_iff.mp he)
  | _ => rfl

theorem IsComplete.faults_conflict (h : s.IsComplete) :
    (s.conflict.map Conflict.faults).getD [] = [] := by
  rcases hk : s.conflict with _ | ⟨keys, _ | as⟩
  · rfl
  · rfl
  · exact if_neg fun he => h.targeted keys as hk (List.isEmpty_iff.mp he)

/-- What is wrong with a complete statement is its conflict, or in its joins and conditions. -/
theorem IsComplete.faults (h : s.IsComplete) :
    s.faults = (if s.conflict.isSome ∧ s.command.isInsert = false then [.conflictWithoutInsert]
      else []) ++ s.clauseFaults := by
  unfold Statement.faults
  rw [h.faults_command, h.faults_conflict, List.append_nil, List.append_nil]

end Statement

namespace Step

/-- The joins a step adds. -/
def joins : Step → List Join
  | .join input =>
    match input.read Join.listOfJson with
    | .ok joins => joins
    | .error _ => []
  | _ => []

/-- A join without a table is not read from JSON. -/
theorem exists_join_data {step : Step} {j : Join} (hj : j ∈ step.joins) (ht : j.table = "") :
    ∃ joins, step = .join (.data joins) ∧ j ∈ joins := by
  unfold joins at hj
  split at hj
  · rename_i input
    split at hj
    · rename_i joins hr
      cases input with
      | json v => exact absurd ht (Join.table_ne_empty_of_listOfJson hr j hj)
      | data js =>
        cases hr
        exact ⟨joins, rfl, hj⟩
    · cases hj
  · cases hj

end Step

namespace Builder

variable {b : Builder}

/-! ## Steps -/

/-- What holds of a statement and of what a result makes of it holds after the attempt. -/
theorem of_attempt {α : Type} {P : Statement → Prop} {result : Except BuildError α}
    {f : α → Statement → Statement} (hb : P b.statement)
    (hf : ∀ a, result = .ok a → P (f a b.statement)) : P (b.attempt result f).statement := by
  cases result with
  | error e => exact hb
  | ok a => exact hf a rfl

theorem ne_nil_of_nonEmpty {as bs : List Assignment} (h : nonEmpty as = .ok bs) : bs ≠ [] := by
  unfold nonEmpty at h
  split at h
  · cases h
  · rename_i hn
    cases h
    rintro rfl
    exact hn rfl

theorem keys_ne_nil_of_readConflict {command : Command} {keys : Keys}
    {action : Input ConflictAction} {c : Conflict} (h : readConflict command keys action = .ok c)
    {as : List Assignment} (ha : c.action = .update as) : c.keys ≠ [] := by
  unfold readConflict at h
  split at h
  · cases h
  · obtain ⟨a, -, h⟩ := bind_eq_ok h
    cases a with
    | keep =>
      cases h
      cases ha
    | update bs =>
      unfold conflictOf at h
      dsimp only at h
      split at h
      · cases h
      · rename_i hn
        cases h
        exact fun he => hn (List.isEmpty_iff.mpr he)

/-- A step keeps a statement complete, whether it fails or not. -/
theorem isComplete_apply (h : b.statement.IsComplete) (step : Step) :
    (b.apply step).statement.IsComplete := by
  cases step with
  | update values =>
    have ha : (b.attempt ((values.read Assignment.listOfJson).bind nonEmpty)
        fun as s => { s with command := .update as }).statement.IsComplete := by
      refine of_attempt h fun as ha => ⟨?_, h.targeted⟩
      obtain ⟨_, -, ha⟩ := bind_eq_ok ha
      rintro _ ⟨rfl⟩
      exact ne_nil_of_nonEmpty ha
    exact ha.of_eq rfl rfl
  | insert values =>
    have ha : (b.attempt (values.read Assignment.listOfJson)
        fun as s => { s with command := .insert as }).statement.IsComplete :=
      of_attempt h fun as _ => ⟨nofun, h.targeted⟩
    exact ha.of_eq rfl rfl
  | delete => exact ⟨nofun, h.targeted⟩
  | onConflict keys action =>
    refine of_attempt h fun c hc => ⟨h.assigned, ?_⟩
    rintro ks as ⟨rfl⟩
    exact keys_ne_nil_of_readConflict hc rfl
  | filter conditions => exact of_attempt h fun _ _ => h.of_eq rfl rfl
  | join joins => exact of_attempt h fun _ _ => h.of_eq rfl rfl
  | _ => exact h.of_eq rfl rfl

theorem field_attempt {α β : Type} (field : Statement → β) {result : Except BuildError α}
    {f : α → Statement → Statement} (hf : ∀ a, field (f a b.statement) = field b.statement) :
    field (b.attempt result f).statement = field b.statement :=
  of_attempt (P := fun s => field s = field b.statement) rfl fun a _ => hf a

/-- A step adds its joins behind those there are. -/
theorem joins_apply (b : Builder) (step : Step) :
    (b.apply step).statement.joins = b.statement.joins ++ step.joins := by
  cases step with
  | join input =>
    show (b.attempt _ _).statement.joins = _ ++ Step.joins _
    unfold Step.joins
    dsimp only
    cases input.read Join.listOfJson with
    | ok joins => rfl
    | error e => exact (List.append_nil _).symm
  | update values =>
    exact (field_attempt Statement.joins fun _ => rfl).trans (List.append_nil _).symm
  | insert values =>
    exact (field_attempt Statement.joins fun _ => rfl).trans (List.append_nil _).symm
  | onConflict keys action =>
    exact (field_attempt Statement.joins fun _ => rfl).trans (List.append_nil _).symm
  | filter conditions =>
    exact (field_attempt Statement.joins fun _ => rfl).trans (List.append_nil _).symm
  | _ => exact (List.append_nil _).symm

/-! ## Runs -/

theorem isComplete_applyAll (h : b.statement.IsComplete) (steps : List Step) :
    (b.applyAll steps).statement.IsComplete := by
  induction steps generalizing b with
  | nil => exact h
  | cons step steps ih => exact ih (isComplete_apply h step)

theorem isComplete_ofSteps (config : Config) (table : String) (steps : List Step) :
    (ofSteps config table steps).statement.IsComplete := by
  refine isComplete_applyAll ⟨?_, ?_⟩ steps
  · rintro as ⟨⟩
  · rintro keys as ⟨⟩

theorem joins_applyAll (b : Builder) (steps : List Step) :
    (b.applyAll steps).statement.joins = b.statement.joins ++ steps.flatMap Step.joins := by
  induction steps generalizing b with
  | nil => exact (List.append_nil _).symm
  | cons step steps ih =>
    show ((b.apply step).applyAll steps).statement.joins = _
    rw [ih, joins_apply, List.append_assoc, List.flatMap_cons]

/-- A join without a table comes from a step with joins that were not read from JSON. -/
theorem exists_join_data_of_mem_joins {config : Config} {table : String} {steps : List Step}
    {j : Join} (hj : j ∈ (ofSteps config table steps).statement.joins) (ht : j.table = "") :
    ∃ joins, .join (.data joins) ∈ steps ∧ j ∈ joins := by
  have hs : (ofSteps config table steps).statement.joins = steps.flatMap Step.joins :=
    joins_applyAll _ steps
  rw [hs] at hj
  obtain ⟨step, hstep, hadded⟩ := List.mem_flatMap.mp hj
  obtain ⟨joins, rfl, hjoin⟩ := Step.exists_join_data hadded ht
  exact ⟨joins, hstep, hjoin⟩

theorem build_of_fault_eq_none (h : b.fault = none) : b.build = b.statement.compile b.config := by
  unfold build
  rw [h]

/-- What can be wrong behind steps without a fault is the conflict or else a clause, and the first
of it is what building gives. -/
theorem failure?_build_ofSteps (config : Config) (table : String) (steps : List Step)
    (h : (ofSteps config table steps).fault = none) :
    let s := (ofSteps config table steps).statement
    (ofSteps config table steps).build.failure? =
      if s.conflict.isSome ∧ s.command.isInsert = false then some .conflictWithoutInsert
      else s.clauseFaults.head? := by
  dsimp only
  rw [build_of_fault_eq_none h, Statement.failure?_compile,
    (isComplete_ofSteps config table steps).faults]
  split <;> rfl

/-- What building fails with is a conflict without an insert, or what a clause can be wrong with. -/
theorem cases_of_build_eq_error {config : Config} {table : String} {steps : List Step}
    (h : (ofSteps config table steps).fault = none) {e : BuildError}
    (he : (ofSteps config table steps).build = .error e) :
    let s := (ofSteps config table steps).statement
    (e = .conflictWithoutInsert ∧ s.conflict.isSome ∧ s.command.isInsert = false) ∨
      (e = .missingJoinTable ∧ s.command = .select ∧ ∃ j ∈ s.joins, j.table = "") ∨
      (∃ comparer, e = .nullComparison comparer) ∧
        ((s.command = .select ∧ ∃ j ∈ s.joins, ∃ cs, j.on = .conditions cs ∧
            e ∈ Condition.faults cs) ∨
          (s.command.isInsert = false ∧ e ∈ Condition.faults s.conditions)) := by
  have hf := failure?_build_ofSteps config table steps h
  dsimp only at hf
  rw [he] at hf
  split at hf
  · rename_i hc
    exact .inl ⟨Option.some.inj hf, hc⟩
  · exact .inr (Statement.cases_of_mem_clauseFaults (List.mem_of_head? hf.symm))

/-- Steps without a fault give an update that assigns something and an update on conflict that has a
target. Building rejects a conflict exactly if the command is no longer an insert. Otherwise it gives
the first of what is wrong with the joins of a select, in order, and then with its conditions, or
with those of an update or delete, and succeeds if there is nothing. It is a table that is missing,
in a select with a join that was not read from JSON, or a null value under a comparer without a
test, in the conditions of a select's join or in those of a statement that is no insert. -/
theorem ofSteps_rejects_first_offence (config : Config) (table : String) (steps : List Step)
    (h : (ofSteps config table steps).fault = none) :
    let s := (ofSteps config table steps).statement
    let result := (ofSteps config table steps).build
    s.IsComplete ∧
    (result = .error .conflictWithoutInsert ↔
      s.conflict.isSome ∧ s.command.isInsert = false) ∧
    ((s.conflict.isSome → s.command.isInsert) → result.failure? = s.clauseFaults.head?) ∧
    (result = .error .missingJoinTable → s.command = .select ∧
      ∃ joins, .join (.data joins) ∈ steps ∧ ∃ j ∈ joins, j ∈ s.joins ∧ j.table = "") ∧
    (∀ comparer, result = .error (.nullComparison comparer) →
      (s.command = .select ∧ ∃ j ∈ s.joins, ∃ cs, j.on = .conditions cs ∧
        .nullComparison comparer ∈ Condition.faults cs) ∨
      (s.command.isInsert = false ∧ .nullComparison comparer ∈ Condition.faults s.conditions)) ∧
    ∀ e, result = .error e → e = .conflictWithoutInsert ∨ e = .missingJoinTable ∨
      ∃ comparer, e = .nullComparison comparer := by
  intro s result
  have hf : result.failure? = if s.conflict.isSome ∧ s.command.isInsert = false then
      some .conflictWithoutInsert else s.clauseFaults.head? :=
    failure?_build_ofSteps config table steps h
  refine ⟨isComplete_ofSteps config table steps, ⟨?_, ?_⟩, ?_, ?_, ?_, ?_⟩
  · intro he
    rcases cases_of_build_eq_error h he with ⟨-, hs⟩ | ⟨hn, -⟩ | ⟨⟨_, hn⟩, -⟩
    · exact hs
    · cases hn
    · cases hn
  · intro hs
    rw [if_pos hs] at hf
    exact Except.failure?_eq_some_iff.mp hf
  · intro hi
    have hs : ¬ (s.conflict.isSome ∧ s.command.isInsert = false) := by
      rintro ⟨hk, hc⟩
      exact Bool.false_ne_true (hc.symm.trans (hi hk))
    rwa [if_neg hs] at hf
  · intro he
    rcases cases_of_build_eq_error h he with ⟨hn, -⟩ | ⟨-, hc, j, hj, ht⟩ | ⟨⟨_, hn⟩, -⟩
    · cases hn
    · obtain ⟨joins, hs, hjs⟩ := exists_join_data_of_mem_joins hj ht
      exact ⟨hc, joins, hs, j, hjs, hj, ht⟩
    · cases hn
  · intro comparer he
    rcases cases_of_build_eq_error h he with ⟨hn, -⟩ | ⟨hn, -⟩ | ⟨-, hw⟩
    · cases hn
    · cases hn
    · exact hw
  · intro e he
    rcases cases_of_build_eq_error h he with ⟨hn, -⟩ | ⟨hn, -⟩ | ⟨hn, -⟩
    · exact .inl hn
    · exact .inr (.inl hn)
    · exact .inr (.inr hn)

/-- Conditions that compare with null, and joins of which the second has no table. -/
def untestedAndNowhere : List Step :=
  [.filter (.data [.group (.compare .lt) [.leaf "age" .null]]),
    .join (.data [.inner "roles", .inner ""])]

theorem ofSteps_untestedAndNowhere :
    (ofSteps {} "users" untestedAndNowhere).fault = none ∧
      (ofSteps {} "users" untestedAndNowhere).build = .error .missingJoinTable ∧
      (ofSteps {} "users" untestedAndNowhere).statement.clauseFaults =
        [.missingJoinTable, .nullComparison .lt] ∧
      (ofSteps {} "users" (untestedAndNowhere ++ [.delete])).build =
        .error (.nullComparison .lt) := by
  have hf : (ofSteps {} "users" untestedAndNowhere).fault = none := rfl
  have hd : (ofSteps {} "users" (untestedAndNowhere ++ [.delete])).fault = none := rfl
  have hc : (ofSteps {} "users" untestedAndNowhere).statement.clauseFaults =
      [.missingJoinTable, .nullComparison .lt] := by rfl
  have hw : (ofSteps {} "users" (untestedAndNowhere ++ [.delete])).statement.clauseFaults =
      [.nullComparison .lt] := by rfl
  obtain ⟨-, -, hj, -⟩ := ofSteps_rejects_first_offence {} "users" untestedAndNowhere hf
  obtain ⟨-, -, hn, -⟩ :=
    ofSteps_rejects_first_offence {} "users" (untestedAndNowhere ++ [.delete]) hd
  refine ⟨hf, Except.failure?_eq_some_iff.mp ?_, hc, Except.failure?_eq_some_iff.mp ?_⟩
  · rw [hj nofun, hc]
    rfl
  · rw [hn nofun, hw]
    rfl

end Builder

end SqlCompose
