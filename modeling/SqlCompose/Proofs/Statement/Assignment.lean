import SqlCompose.Proofs.Statement.Fault
import SqlCompose.Proofs.Statement.Text

/-!
# Columns and values side by side

An assignment has a column and a right side, and both are written from it alone but for the number
of its placeholder. That number counts the values bound before and those that the assignments up to
it bind (`Statement.sideTexts`). The lists behind VALUES and behind SET are made of the same columns
and right sides (`Statement.valuesText_eq`, `Statement.setText_eq`).
-/

namespace SqlCompose

/-- The number of assignments that bind a value. -/
def Assignment.countBound (as : List Assignment) : Nat :=
  as.countP fun a => a.value.bound?.isSome

namespace Assignment

theorem countBound_cons (a : Assignment) (as : List Assignment) :
    countBound (a :: as) = a.value.bound?.toList.length + countBound as := by
  unfold countBound
  rw [List.countP_cons]
  cases a.value.bound? with
  | none => exact (Nat.zero_add _).symm
  | some v => exact Nat.add_comm _ 1

theorem length_boundValues (as : List Assignment) : (boundValues as).length = countBound as :=
  List.length_filterMap_eq_countP

/-- The value that an assignment binds is the last of those that the assignments up to it bind. -/
theorem getElem?_boundValues {as : List Assignment} {i : Nat} {a : Assignment} {v : Value}
    (h : as[i]? = some a) (hv : a.value = .bind v) :
    0 < countBound (as.take (i + 1)) ∧
      (boundValues as)[countBound (as.take (i + 1)) - 1]? = some v := by
  induction as generalizing i with
  | nil => cases h
  | cons b as ih =>
    cases i with
    | zero =>
      cases h
      simp [countBound, boundValues, hv, Assigned.bound?]
    | succ i =>
      obtain ⟨hp, hi⟩ := ih h
      rw [List.take_succ_cons, countBound_cons]
      unfold boundValues at hi ⊢
      rw [List.filterMap_cons]
      cases b.value.bound? with
      | none => simpa using ⟨hp, hi⟩
      | some w =>
        refine ⟨Nat.add_pos_left Nat.one_pos _, ?_⟩
        show (w :: _)[1 + _ - 1]? = _
        rw [Nat.add_sub_cancel_left, ← Nat.sub_add_cancel hp, List.getElem?_cons_succ]
        exact hi

end Assignment

namespace Statement

open Assignment (countBound countBound_cons length_boundValues getElem?_boundValues)

/-! ## Right sides -/

/-- A right side: a value is bound under the number `k`. -/
def sideText (k : Nat) : Assigned → String
  | .null => "NULL"
  | .raw sql => sql
  | .bind _ => Params.mark k

/-- The right sides of assignments behind `n` values. -/
def sideTexts (n : Nat) (as : List Assignment) : List String :=
  as.mapIdx fun i a => sideText (n + countBound (as.take (i + 1))) a.value

/-- The columns of assignments. -/
def columnTexts (naming : Naming) (as : List Assignment) : List String :=
  as.map fun a => naming.quotedName a.column

/-- Columns and values, as an insert has them. -/
def valuesClause (columns sides : List String) : String :=
  "(" ++ ", ".intercalate columns ++ ") VALUES (" ++ ", ".intercalate sides ++ ")"

/-- Columns set to values, as an update has them. -/
def setClause (columns sides : List String) : String :=
  "SET " ++ ", ".intercalate
    (List.zipWith (fun column side => column ++ " = " ++ side) columns sides)

variable (naming : Naming) (p : Params) (as : List Assignment)

theorem assignedTexts_eq (before : Assignment → String) :
    assignedTexts before p as =
      List.zipWith (fun a side => before a ++ side) as (sideTexts p.size as) := by
  induction as generalizing p with
  | nil => rfl
  | cons a as ih =>
    have hs : sideTexts p.size (a :: as) =
        assignedText p a.value :: sideTexts (p.append a.value.bound?.toList).size as := by
      unfold sideTexts
      rw [List.mapIdx_cons, Params.size_append]
      congr 1
      · cases hv : a.value <;> simp [assignedText, sideText, countBound, hv, Assigned.bound?]
      · refine congrArg (List.mapIdx · as) (funext fun i => funext fun b => ?_)
        rw [List.take_succ_cons, countBound_cons, Nat.add_assoc]
    rw [hs, assignedTexts, ih]
    rfl

theorem setText_eq :
    setText naming p as = setClause (columnTexts naming as) (sideTexts p.size as) := by
  unfold setText setClause columnTexts
  rw [assignedTexts_eq, List.zipWith_map_left]

theorem length_sideTexts (n : Nat) : (sideTexts n as).length = as.length := List.length_mapIdx

theorem getElem?_sideTexts (n : Nat) {as : List Assignment} {i : Nat} {a : Assignment}
    (h : as[i]? = some a) :
    (sideTexts n as)[i]? = some (sideText (n + countBound (as.take (i + 1))) a.value) := by
  unfold sideTexts
  rw [List.getElem?_mapIdx, h]
  rfl

theorem valuesText_eq {as : List Assignment} (h : as ≠ []) :
    valuesText naming p as = valuesClause (columnTexts naming as) (sideTexts p.size as) := by
  have hz : List.zipWith (fun _ side => side) as (sideTexts p.size as) = sideTexts p.size as :=
    (List.map_zip_eq_zipWith (f := Prod.snd)).symm.trans
      (List.map_snd_zip (Nat.le_of_eq (length_sideTexts as p.size)))
  unfold valuesText valuesClause columnTexts
  rw [if_neg fun he => h (List.isEmpty_iff.mp he), assignedTexts_eq]
  simp only [String.empty_append]
  rw [hz]

/-! ## Statements -/

section Compile

variable {config : Config} {s : Statement} {as : List Assignment}

theorem size_append_boundValues (as : List Assignment) :
    (Params.empty.append (Assignment.boundValues as)).size = countBound as := by
  rw [Params.size_append, length_boundValues]
  exact Nat.zero_add _

theorem exists_compile (h : s.faults = []) : ∃ q, s.compile config = .ok q := by
  rw [← Except.failure?_eq_none_iff, failure?_compile, h]
  rfl

/-- An update that sets something is written if its filter can be. -/
theorem compile_update (hc : s.command = .update as) (hn : as ≠ []) (hk : s.conflict = none)
    {filter : Sql} (hf : whereSql config.naming s.conditions = .ok filter) :
    s.compile config = .ok ⟨Text.spaced ["UPDATE", config.naming.bareName s.table,
      setClause (columnTexts config.naming as) (sideTexts 0 as),
      (Sql.render (Params.empty.append (Assignment.boundValues as)) filter).1, "RETURNING",
      keysText config.naming s.keys false], s.boundValues⟩ := by
  have hw : Condition.faults s.conditions = [] := by
    rw [← List.head?_eq_none_iff, ← failure?_whereSql config.naming, hf]
    rfl
  obtain ⟨q, hq⟩ : ∃ q, s.compile config = .ok q := by
    refine exists_compile ?_
    unfold faults clauseFaults Command.faults
    simp [hc, hk, hn, hw]
  obtain ⟨joins, filter', -, hf', rfl⟩ := compile_eq_text hq
  obtain rfl : filter' = filter := Except.ok.inj ((hf' (by rw [hc]; rfl)).symm.trans hf)
  rw [hq]
  unfold text
  rw [hc]
  dsimp only
  rw [setText_eq]
  rfl

/-- An insert is written unless the update of its conflict has no target. -/
theorem compile_insert (hc : s.command = .insert as) (hn : as ≠ [])
    (hk : ∀ keys bs, s.conflict = some ⟨keys, .update bs⟩ → keys ≠ []) :
    s.compile config = .ok ⟨Text.spaced ["INSERT INTO", config.naming.bareName s.table,
      valuesClause (columnTexts config.naming as) (sideTexts 0 as),
      conflictText config.naming (Params.empty.append (Assignment.boundValues as)) s.conflict,
      "RETURNING", keysText config.naming s.keys false], s.boundValues⟩ := by
  obtain ⟨q, hq⟩ : ∃ q, s.compile config = .ok q := by
    refine exists_compile ?_
    unfold faults clauseFaults Command.faults
    rcases hs : s.conflict with _ | ⟨keys, _ | bs⟩
    · simp [hc]
    · simp [hc, Command.isInsert, Conflict.faults]
    · simp [hc, Command.isInsert, Conflict.faults, hk keys bs hs]
  obtain ⟨joins, filter, -, -, rfl⟩ := compile_eq_text hq
  rw [hq]
  unfold text
  rw [hc]
  dsimp only
  rw [valuesText_eq _ _ hn]
  rfl

end Compile

theorem conflictText_update (keys : List String) :
    conflictText naming p (some ⟨keys, .update as⟩) = "ON CONFLICT" ++ targetText naming keys ++
      " DO UPDATE " ++ setClause (columnTexts naming as) (sideTexts p.size as) := by
  rw [← setText_eq]
  rfl

/-- Assignments behind `n` values. Each has its column and its right side at its own place in both
lists: NULL, its SQL as it is, or the placeholder of `n` and the number of those up to it that bind,
which is the number of its value. Written as values or behind SET, they are these two lists, and
they bind the same values. An update writes the lists behind no values. So does an insert, and it
writes the lists of its conflict behind the values that it inserts. -/
theorem assignments_written_alike (config : Config) (p : Params) {as : List Assignment}
    (h : as ≠ []) :
    let naming := config.naming
    let columns := columnTexts naming as
    let sides := sideTexts p.size as
    let bound := p.append (Assignment.boundValues as)
    (columns.length = as.length ∧ sides.length = as.length) ∧
    (∀ i a, as[i]? = some a → columns[i]? = some (naming.quotedName a.column) ∧
      sides[i]? = some (sideText (p.size + countBound (as.take (i + 1))) a.value) ∧
      ∀ v, a.value = .bind v →
        bound.values[p.size + countBound (as.take (i + 1)) - 1]? = some v) ∧
    Sql.render p (valuesSql naming as) = (valuesClause columns sides, bound) ∧
    Sql.render p (setSql naming as) = (setClause columns sides, bound) ∧
    ∀ s : Statement,
      (∀ filter, s.command = .update as → s.conflict = none →
        whereSql naming s.conditions = .ok filter →
        s.compile config = .ok ⟨Text.spaced ["UPDATE", naming.bareName s.table,
          setClause columns (sideTexts 0 as),
          (Sql.render (Params.empty.append (Assignment.boundValues as)) filter).1, "RETURNING",
          keysText naming s.keys false], s.boundValues⟩) ∧
      (s.command = .insert as →
        (∀ keys bs, s.conflict = some ⟨keys, .update bs⟩ → keys ≠ []) →
        ∃ conflict, s.compile config = .ok ⟨Text.spaced ["INSERT INTO", naming.bareName s.table,
            valuesClause columns (sideTexts 0 as), conflict, "RETURNING",
            keysText naming s.keys false], s.boundValues⟩ ∧
          ∀ keys bs, s.conflict = some ⟨keys, .update bs⟩ →
            conflict = "ON CONFLICT" ++ targetText naming keys ++ " DO UPDATE " ++
              setClause (columnTexts naming bs) (sideTexts (countBound as) bs)) := by
  intro naming columns sides bound
  refine ⟨⟨List.length_map _, length_sideTexts as p.size⟩, fun i a hi => ⟨?_, ?_, ?_⟩, ?_, ?_,
    fun s => ⟨fun filter hc hk hf => compile_update hc h hk hf, fun hc hk => ?_⟩⟩
  · show (as.map _)[i]? = _
    rw [List.getElem?_map, hi]
    rfl
  · exact getElem?_sideTexts p.size hi
  · intro v hv
    obtain ⟨hp, hb⟩ := getElem?_boundValues hi hv
    show (p.values ++ Assignment.boundValues as)[p.values.length + _ - 1]? = _
    rw [Nat.add_sub_assoc hp, List.getElem?_append_right (Nat.le_add_right _ _),
      Nat.add_sub_cancel_left]
    exact hb
  · refine Prod.ext ?_ ?_
    · rw [render_valuesSql, valuesText_eq naming p h]
    · rw [Sql.render_snd, values_valuesSql]
  · refine Prod.ext ?_ ?_
    · rw [render_setSql, setText_eq]
    · rw [Sql.render_snd, values_setSql]
  · refine ⟨_, compile_insert hc h hk, fun keys bs hs => ?_⟩
    rw [hs, conflictText_update, size_append_boundValues]

/-- What is known of a visit. -/
def visitFields : List Assignment :=
  [⟨"name", .bind (.text "ada")⟩, ⟨"leftAt", .null⟩, ⟨"seenAt", .raw "now()"⟩,
    ⟨"count", .bind (.int 1)⟩]

/-- A visit by name, counted and dated. -/
def countedVisit : Statement where
  table := "visits"
  command := .insert visitFields
  conflict := some ⟨["name"], .update [⟨"seenAt", .raw "now()"⟩, ⟨"count", .bind (.int 2)⟩]⟩

theorem assignments_of_countedVisit :
    visitFields ≠ [] ∧ sideTexts 2 visitFields = ["$3", "NULL", "now()", "$4"] ∧
    ∃ q, countedVisit.compile {} = .ok q ∧ q.sql =
      "INSERT INTO visits (\"name\", \"left_at\", \"seen_at\", \"count\") " ++
        "VALUES ($1, NULL, now(), $2) ON CONFLICT (\"name\") " ++
        "DO UPDATE SET \"seen_at\" = now(), \"count\" = $3 RETURNING *" := by
  have hn : visitFields ≠ [] := List.cons_ne_nil _ _
  obtain ⟨-, -, -, -, hs⟩ := assignments_written_alike {} .empty hn
  have hk : ∀ keys bs, countedVisit.conflict = some ⟨keys, .update bs⟩ → keys ≠ [] := by
    rintro keys bs ⟨⟩
    exact List.cons_ne_nil _ _
  obtain ⟨conflict, hq, hc⟩ := (hs countedVisit).2 rfl hk
  refine ⟨hn, by decide +kernel, _, hq, ?_⟩
  rw [hc _ _ rfl]
  decide +kernel

end Statement

end SqlCompose
