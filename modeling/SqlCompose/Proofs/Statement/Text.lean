import SqlCompose.Proofs.Statement.Count

/-!
# The text of statements

Every statement that can be written has the text of its command (`Statement.text`) around the joins
and the filter. Assignments are written one behind the other, each behind the values of those before
(`Statement.assignedTexts`). They stand behind SET in an update and in the update of a conflict, and
a list behind SET is empty only if there are no assignments (`Statement.setText_eq_iff`).
-/

namespace SqlCompose.Statement

/-! ## Assignments -/

/-- The right side of an assignment behind the values `p`. -/
def assignedText (p : Params) : Assigned → String
  | .null => "NULL"
  | .raw sql => sql
  | .bind _ => Params.mark (p.size + 1)

/-- The right sides of assignments behind the values `p`, with something in front of each. -/
def assignedTexts (before : Assignment → String) (p : Params) : List Assignment → List String
  | [] => []
  | a :: as => (before a ++ assignedText p a.value) ::
      assignedTexts before (p.append a.value.bound?.toList) as

/-- The SET list of assignments behind the values `p`. -/
def setText (naming : Naming) (p : Params) (as : List Assignment) : String :=
  "SET " ++ ", ".intercalate (assignedTexts (fun a => naming.quotedName a.column ++ " = ") p as)

/-- The columns and values of an insert. -/
def valuesText (naming : Naming) (p : Params) (as : List Assignment) : String :=
  if as.isEmpty then "DEFAULT VALUES"
  else "(" ++ ", ".intercalate (as.map fun a => naming.quotedName a.column) ++ ") VALUES (" ++
    ", ".intercalate (assignedTexts (fun _ => "") p as) ++ ")"

/-- The ON CONFLICT clause behind the values `p`, empty without a conflict. -/
def conflictText (naming : Naming) (p : Params) : Option Conflict → String
  | none => ""
  | some ⟨keys, .keep⟩ => "ON CONFLICT" ++ targetText naming keys ++ " DO NOTHING"
  | some ⟨keys, .update as⟩ =>
    "ON CONFLICT" ++ targetText naming keys ++ " DO UPDATE " ++ setText naming p as

section Assignments

variable (naming : Naming) (p : Params) (as : List Assignment)

theorem render_assignedSql (a : Assigned) :
    (Sql.render p (assignedSql a)).1 = assignedText p a := by
  cases a with
  | null => exact String.append_empty
  | raw sql => exact String.append_empty
  | bind v => exact String.append_empty

theorem exists_of_mem_assignedTexts {before : Assignment → String} {p : Params}
    {as : List Assignment} {t : String} (h : t ∈ assignedTexts before p as) :
    ∃ a ∈ as, ∃ p', t = before a ++ assignedText p' a.value := by
  induction as generalizing p with
  | nil => cases h
  | cons a as ih =>
    rcases List.mem_cons.mp h with rfl | h
    · exact ⟨a, List.mem_cons_self, p, rfl⟩
    · obtain ⟨a', ha, p', rfl⟩ := ih h
      exact ⟨a', List.mem_cons_of_mem a ha, p', rfl⟩

theorem texts_map_assignment {before : Assignment → String} {f : Assignment → Sql}
    (ht : ∀ p a, (Sql.render p (f a)).1 = before a ++ assignedText p a.value)
    (hv : ∀ a, (f a).values = a.value.bound?.toList) :
    Sql.texts p (as.map f) = assignedTexts before p as := by
  induction as generalizing p with
  | nil => rfl
  | cons a as ih =>
    rw [List.map_cons, Sql.texts, ht, hv, ih]
    rfl

theorem render_setSql : (Sql.render p (setSql naming as)).1 = setText naming p as := by
  unfold setSql setText
  rw [Sql.render_append, Sql.render_text, Sql.values_text, Params.append_nil, Sql.render_joined,
    texts_map_assignment]
  · intro p a
    rw [Sql.render_append, Sql.render_text, Sql.values_text, Params.append_nil,
      render_assignedSql]
  · intro a
    rw [Sql.values_append, Sql.values_text, List.nil_append, values_assignedSql]

theorem render_valuesSql : (Sql.render p (valuesSql naming as)).1 = valuesText naming p as := by
  unfold valuesSql valuesText
  split
  · exact Sql.render_text _ _
  · rw [Sql.render_append, Sql.render_append, Sql.render_text, Sql.render_text, Sql.values_text,
      Params.append_nil, Sql.render_joined, texts_map_assignment]
    · intro p a
      rw [render_assignedSql, String.empty_append]
    · exact fun a => values_assignedSql a.value

theorem render_of_conflictSql {c : Option Conflict} {x : Sql} (h : conflictSql naming c = .ok x) :
    (Sql.render p x).1 = conflictText naming p c := by
  rcases conflictSql_ok h with ⟨rfl, rfl⟩ | ⟨keys, rfl, rfl⟩ | ⟨keys, as, rfl, -, rfl⟩
  · rfl
  · exact Sql.render_text _ _
  · rw [Sql.render_append, Sql.render_text, Sql.values_text, Params.append_nil, render_setSql]
    rfl

/-- A SET list is empty if and only if there is nothing to set. -/
theorem setText_eq_iff : setText naming p as = "SET " ↔ as = [] := by
  refine ⟨fun h => ?_, fun h => by rw [h]; rfl⟩
  cases as with
  | nil => rfl
  | cons a as =>
    have hl : ∀ t ∈ assignedTexts (fun a => naming.quotedName a.column ++ " = ") p (a :: as),
        t.isEmpty = false := by
      intro t ht
      obtain ⟨a, -, p', rfl⟩ := exists_of_mem_assignedTexts ht
      simp
    have hf : (", ".intercalate _).isEmpty = false :=
      Text.isEmpty_intercalate (List.cons_ne_nil _ _) hl
    unfold setText at h
    have ht := (String.append_right_inj "SET ").mp (h.trans String.append_empty.symm)
    rw [show ", ".intercalate (_ :: _) = "" from ht] at hf
    cases hf

end Assignments

/-! ## Statements -/

/-- The text of a statement around its joins and its filter. -/
def text (config : Config) (s : Statement) (joins filter : Sql) : String :=
  match s.command with
  | .select => s.selectText config (s.sourceText config joins filter)
  | .update as =>
    Text.spaced ["UPDATE", config.naming.bareName s.table, setText config.naming .empty as,
      (Sql.render (Params.empty.append (Assignment.boundValues as)) filter).1, "RETURNING",
      keysText config.naming s.keys false]
  | .insert as =>
    Text.spaced ["INSERT INTO", config.naming.bareName s.table, valuesText config.naming .empty as,
      conflictText config.naming (Params.empty.append (Assignment.boundValues as)) s.conflict,
      "RETURNING", keysText config.naming s.keys false]
  | .delete =>
    Text.spaced ["DELETE FROM", config.naming.bareName s.table, (Sql.render .empty filter).1]

variable {config : Config} {s : Statement}

/-- What is written has the text of its command, around the joins of a select and its filter, or the
filter of an update or a delete. -/
theorem compile_eq_text {q : Query} (h : s.compile config = .ok q) :
    ∃ joins filter,
      (s.command = .select →
        Join.listSql config (config.naming.bareName s.table) s.joins = .ok joins) ∧
      (s.command.isInsert = false → whereSql config.naming s.conditions = .ok filter) ∧
      q = ⟨s.text config joins filter, s.boundValues⟩ := by
  obtain ⟨x, hx, rfl⟩ := map_eq_ok h
  have hv := values_of_sql hx
  obtain ⟨ps, hps, rfl⟩ := sql_ok hx
  rw [Sql.toQuery_eq, hv]
  unfold text
  cases hc : s.command with
  | select =>
    obtain ⟨joins, filter, hj, hf, rfl⟩ := parts_select_ok hc hps
    refine ⟨joins, filter, fun _ => hj, fun _ => hf, ?_⟩
    rw [spaced_selectParts, render_around]
    rfl
  | update as =>
    obtain ⟨-, filter, hf, rfl⟩ := parts_update_ok hc hps
    refine ⟨[], filter, (fun h => by cases h), fun _ => hf, ?_⟩
    simp only [Sql.render_spaced, Sql.texts, Sql.render_text, render_setSql, Sql.values_text,
      values_setSql, Params.append_nil]
  | insert as =>
    obtain ⟨conflict, hk, rfl⟩ := parts_insert_ok hc hps
    refine ⟨[], [], (fun h => by cases h), (fun h => by cases h), ?_⟩
    simp only [Sql.render_spaced, Sql.texts, Sql.render_text, render_valuesSql, Sql.values_text,
      values_valuesSql, Params.append_nil, render_of_conflictSql _ _ hk]
  | delete =>
    obtain ⟨filter, hf, rfl⟩ := parts_delete_ok hc hps
    refine ⟨[], filter, (fun h => by cases h), fun _ => hf, ?_⟩
    simp only [Sql.render_spaced, Sql.texts, Sql.render_text, Sql.values_text, Params.append_nil]

end SqlCompose.Statement
