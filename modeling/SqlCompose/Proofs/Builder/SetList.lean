import SqlCompose.Proofs.Builder.Field
import SqlCompose.Proofs.Statement.Text

/-!
# Lists behind SET

An update cannot be written without assignments, and neither a step nor JSON leaves it without any.
The update of a conflict is looked at only where it is read from JSON. So the one SET that can stand
without an assignment is that of a conflict whose update came as data and sets nothing
(`Builder.nil_mem_setLists_iff`).
-/

namespace SqlCompose

/-- There is nothing to set: null, or no assignments. -/
def Input.SetsNothing : Input (List Assignment) → Prop
  | .json j => j = .null ∨ j = .object []
  | .data as => as = []

/-- The assignments behind each SET of a statement. -/
def Statement.setLists (s : Statement) : List (List Assignment) :=
  match s.command with
  | .update as => [as]
  | .insert _ =>
    match s.conflict with
    | some ⟨_, .update as⟩ => [as]
    | _ => []
  | _ => []

/-! ## Payloads -/

theorem Input.setsNothing_iff {values : Input (List Assignment)} : values.SetsNothing ↔
    values.read Assignment.listOfJson = .error .missingAssignments ∨
      values.read Assignment.listOfJson = .ok [] := by
  unfold SetsNothing read Assignment.listOfJson
  cases values with
  | json j => cases j <;> simp
  | data as => simp

namespace ConflictAction

/-- The update of a JSON value sets something. -/
theorem ne_nil_of_ofJson {j : Json} {as : List Assignment} (h : ofJson j = .ok (.update as)) :
    as ≠ [] := by
  unfold ofJson at h
  split at h
  · cases h
  · cases h
  · split at h
    · cases h
    · split at h
      · obtain ⟨bs, -, h⟩ := bind_eq_ok h
        split at h
        · cases h
        · rename_i hn
          cases h
          rintro rfl
          exact hn rfl
      · cases h
  · cases h

theorem ofJson_update (payload : Json) (rest : List (String × Json)) :
    ofJson (.object (("update", payload) :: rest)) = (Assignment.listOfJson payload).bind fun as =>
      if as.isEmpty then .error .missingAssignments else .ok (.update as) := rfl

/-- An object is rejected for what it does not set if and only if its first key is that of an
update which has nothing to set. -/
theorem ofJson_eq_missing_iff {j : Json} : ofJson j = .error .missingAssignments ↔
    ∃ payload rest, j = .object (("update", payload) :: rest) ∧
      (Input.json payload).SetsNothing := by
  constructor
  · intro h
    unfold ofJson at h
    split at h
    · cases h
    · cases h
    · rename_i key payload rest
      split at h
      · cases h
      · split at h
        · rename_i hk
          refine ⟨payload, rest, by rw [hk], Input.setsNothing_iff.mpr ?_⟩
          show Assignment.listOfJson payload = _ ∨ Assignment.listOfJson payload = _
          cases ha : Assignment.listOfJson payload with
          | error e =>
            rw [ha] at h
            cases h
            exact .inl rfl
          | ok as =>
            rw [ha] at h
            cases as with
            | nil => exact .inr rfl
            | cons a as => cases h
        · cases h
    · cases h
  · rintro ⟨payload, rest, rfl, hp⟩
    have ha : Assignment.listOfJson payload = _ ∨ Assignment.listOfJson payload = _ :=
      Input.setsNothing_iff.mp hp
    rw [ofJson_update]
    rcases ha with ha | ha
    · rw [ha]
      rfl
    · rw [ha]
      rfl

end ConflictAction

namespace Step

/-- An update is rejected for what it does not set if it has nothing to set. -/
theorem fault?_update_eq_missing_iff {values : Input (List Assignment)} {command : Command} :
    (Step.update values).fault? command = some .missingAssignments ↔ values.SetsNothing := by
  rw [Input.setsNothing_iff]
  unfold fault?
  dsimp only
  cases values.read Assignment.listOfJson with
  | error e => simp
  | ok as => cases as <;> simp

/-- Behind an insert the update of a conflict is rejected for what it does not set if it has nothing
to set and is JSON. -/
theorem fault?_onConflict_eq_missing_iff {keys : Keys} {action : Input ConflictAction}
    {command : Command} (hi : command.isInsert = true) :
    (Step.onConflict keys action).fault? command = some .missingAssignments ↔
      ∃ payload rest, action = .json (.object (("update", payload) :: rest)) ∧
        (Input.json payload).SetsNothing := by
  have hm : (∃ payload rest, action = .json (.object (("update", payload) :: rest)) ∧
      (Input.json payload).SetsNothing) ↔
        action.read ConflictAction.ofJson = .error .missingAssignments := by
    cases action with
    | json j => simpa [Input.read] using ConflictAction.ofJson_eq_missing_iff.symm
    | data a => simp [Input.read]
  rw [hm]
  unfold fault?
  dsimp only
  rw [hi, if_neg (by decide)]
  cases action.read ConflictAction.ofJson with
  | error e => simp
  | ok a =>
    cases a with
    | keep => simp
    | update as =>
      dsimp only
      split <;> simp

/-- The update of a conflict sets nothing if and only if it came as data that sets nothing. -/
theorem conflict?_eq_update_nil_iff {step : Step} {keys : List String} :
    step.conflict? = some ⟨keys, .update []⟩ ↔ keys ≠ [] ∧
      ∃ written, written.toList = keys ∧ step = .onConflict written (.data (.update [])) := by
  constructor
  · intro h
    cases step with
    | onConflict written action =>
      unfold conflict? at h
      dsimp only at h
      cases hr : action.read ConflictAction.ofJson with
      | error e =>
        rw [hr] at h
        cases h
      | ok a =>
        rw [hr] at h
        cases a with
        | keep => cases h
        | update as =>
          change (Builder.conflictOf written.toList (.update as)).toOption = _ at h
          unfold Builder.conflictOf at h
          dsimp only at h
          split at h
          · cases h
          · rename_i hk
            cases h
            refine ⟨fun he => hk (List.isEmpty_iff.mpr he), written, rfl, ?_⟩
            cases action with
            | json j => exact absurd rfl (ConflictAction.ne_nil_of_ofJson hr)
            | data a =>
              cases hr
              rfl
    | _ => cases h
  · rintro ⟨hk, written, rfl, rfl⟩
    show (if written.toList.isEmpty then _ else _ : Except BuildError Conflict).toOption = _
    rw [if_neg fun he => hk (List.isEmpty_iff.mp he)]
    rfl

end Step

namespace Builder

open Statement

variable {config : Config} {s : Statement}

/-! ## Statements -/

/-- Of what can be written only the update of a conflict can set nothing. -/
theorem nil_mem_setLists_of_compile {q : Query} (h : s.compile config = .ok q) :
    [] ∈ s.setLists ↔
      s.command.isInsert = true ∧ ∃ keys, s.conflict = some ⟨keys, .update []⟩ := by
  obtain ⟨x, hx, -⟩ := map_eq_ok h
  obtain ⟨ps, hps, -⟩ := sql_ok hx
  unfold setLists
  cases hc : s.command with
  | update as =>
    have hn := (parts_update_ok hc hps).1
    simpa [Command.isInsert] using hn
  | insert as =>
    rcases s.conflict with _ | ⟨keys, _ | bs⟩
    · simp
    · simp
    · simp [Command.isInsert]
  | _ => simp [Command.isInsert]

/-- The update that steps leave for a conflict sets nothing if and only if the last of them for a
conflict has an update that came as data and sets nothing. -/
theorem conflict_ofSteps_eq_update_nil_iff {table : String} {steps : List Step}
    (h : (ofSteps config table steps).fault = none) :
    (∃ keys, (ofSteps config table steps).statement.conflict = some ⟨keys, .update []⟩) ↔
      ∃ keys, keys.toList ≠ [] ∧ (steps.filter Step.handlesConflict).getLast? =
        some (.onConflict keys (.data (.update []))) := by
  rw [conflict_ofSteps h]
  constructor
  · rintro ⟨keys, hk⟩
    obtain ⟨step, hs, hc⟩ := Option.bind_eq_some_iff.mp hk
    obtain ⟨hn, written, rfl, rfl⟩ := Step.conflict?_eq_update_nil_iff.mp hc
    exact ⟨written, hn, hs⟩
  · rintro ⟨written, hn, hs⟩
    rw [hs]
    exact ⟨written.toList, Step.conflict?_eq_update_nil_iff.mpr ⟨hn, written, rfl, rfl⟩⟩

/-- Where SET stands in what is written, and what stands behind it. The text is that of the command,
in which each SET is that of an update or of the update of a conflict, and it is followed by nothing
if and only if there is nothing to set. An update always sets something. The update of a conflict
may set nothing, and behind steps without a fault it does if and only if the last step for a
conflict has an update that came as data without assignments. All other payloads with nothing to set
are rejected: that of an update, by the step or when it is written, and that of a conflict in
JSON. -/
theorem nil_mem_setLists_iff (config : Config) (s : Statement) {q : Query}
    (h : s.compile config = .ok q) :
    (∃ joins filter,
      (s.command = .select →
        Join.listSql config (config.naming.bareName s.table) s.joins = .ok joins) ∧
      (s.command.isInsert = false → whereSql config.naming s.conditions = .ok filter) ∧
      q = ⟨s.text config joins filter, s.boundValues⟩) ∧
    (∀ p as, setText config.naming p as = "SET " ↔ as = []) ∧
    (∀ as, s.command = .update as → as ≠ []) ∧
    ([] ∈ s.setLists ↔
      s.command.isInsert = true ∧ ∃ keys, s.conflict = some ⟨keys, .update []⟩) ∧
    (∀ table steps, (ofSteps config table steps).fault = none →
      (ofSteps config table steps).statement = s →
      ([] ∈ s.setLists ↔ s.command.isInsert = true ∧ ∃ keys, keys.toList ≠ [] ∧
        (steps.filter Step.handlesConflict).getLast? =
          some (.onConflict keys (.data (.update []))))) ∧
    (∀ t : Statement, t.command = .update [] → t.conflict = none →
      t.compile config = .error .missingAssignments) ∧
    ∀ b : Builder, b.fault = none →
      (∀ values, (b.apply (.update values)).fault = some .missingAssignments ↔
        values.SetsNothing) ∧
      (b.statement.command.isInsert = true → ∀ keys action,
        ((b.apply (.onConflict keys action)).fault = some .missingAssignments ↔
          ∃ payload rest, action = .json (.object (("update", payload) :: rest)) ∧
            (Input.json payload).SetsNothing)) := by
  refine ⟨compile_eq_text h, setText_eq_iff config.naming, ?_, nil_mem_setLists_of_compile h, ?_, ?_,
    ?_⟩
  · intro as hc
    obtain ⟨x, hx, -⟩ := map_eq_ok h
    obtain ⟨ps, hps, -⟩ := sql_ok hx
    exact (parts_update_ok hc hps).1
  · rintro table steps hf rfl
    rw [nil_mem_setLists_of_compile h, conflict_ofSteps_eq_update_nil_iff hf]
  · intro t hc hk
    rw [← Except.failure?_eq_some_iff, failure?_compile]
    unfold Statement.faults
    rw [hc, hk]
    rfl
  · intro b hb
    refine ⟨fun values => ?_, fun hi keys action => ?_⟩
    · rw [fault_apply, hb, Option.none_or, Step.fault?_update_eq_missing_iff]
    · rw [fault_apply, hb, Option.none_or, Step.fault?_onConflict_eq_missing_iff hi]

/-- A user who is added, or whose visit is counted. -/
def visitOfUser : List Step :=
  [.insert (.data [⟨"name", .bind (.text "ada")⟩, ⟨"visits", .raw "1"⟩]),
    .onConflict (.list ["name"]) (.data (.update [⟨"visits", .raw "users.visits + 1"⟩]))]

theorem setLists_of_visitOfUser :
    let s := (ofSteps {} "users" visitOfUser).statement
    (∃ q, s.compile {} = .ok q ∧ q.sql =
      "INSERT INTO users (\"name\", \"visits\") VALUES ($1, 1) ON CONFLICT (\"name\") " ++
        "DO UPDATE SET \"visits\" = users.visits + 1 RETURNING *") ∧
    [] ∉ s.setLists ∧
    ((ofTable {} "users").apply (.update (.json (.object [])))).fault =
      some .missingAssignments := by
  intro s
  obtain ⟨q, hq, ht⟩ : ∃ q, s.compile {} = .ok q ∧ q.sql =
      "INSERT INTO users (\"name\", \"visits\") VALUES ($1, 1) ON CONFLICT (\"name\") " ++
        "DO UPDATE SET \"visits\" = users.visits + 1 RETURNING *" := ⟨_, rfl, by decide +kernel⟩
  obtain ⟨-, -, -, hl, -, -, hp⟩ := nil_mem_setLists_iff {} s hq
  refine ⟨⟨q, hq, ht⟩, fun hm => ?_, ((hp _ rfl).1 _).mpr (.inr rfl)⟩
  obtain ⟨-, keys, hk⟩ := hl.mp hm
  cases hk

/-- The update of a conflict that sets nothing is rejected in JSON and written if it is data. -/
theorem build_of_emptyUpdate :
    let start := ofSteps {} "t" [.insert (.data [⟨"a", .bind (.int 1)⟩])]
    let b := start.apply (.onConflict (.list ["a"]) (.data (.update [])))
    (start.apply (.onConflict (.list ["a"])
      (.json (.object [("update", .object [])])))).build = .error .missingAssignments ∧
    b.fault = none ∧ b.statement.setLists = [[]] ∧
    ∃ q, b.build = .ok q ∧ q.sql =
      "INSERT INTO t (\"a\") VALUES ($1) ON CONFLICT (\"a\") DO UPDATE SET  RETURNING *" :=
  ⟨rfl, rfl, rfl, _, rfl, by decide +kernel⟩

end Builder

end SqlCompose
