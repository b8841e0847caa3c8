import SqlCompose.Proofs.Condition.Meaning
import SqlCompose.Proofs.Sql.Spaced
import SqlCompose.Proofs.Text.Delimited

/-!
# Constants in conditions

Dates, times, identifiers and JSON that stand in SQL are string constants. One is read back whatever
follows it, unless that starts with a quote. Behind a comparison it never does: what reads as a
boolean expression goes on with an operator or a closing parenthesis there
(`exists_of_readFormula`).
-/

namespace SqlCompose

open Text

/-- The text of a value that is written as a string constant. -/
def Value.constant? : Value → Option String
  | .timestamp t => some t.text
  | .date d => some d.text
  | .uuid u => some u.text
  | .json j => some j.text
  | _ => none

theorem Value.literal_of_constant? {v : Value} {t : String} (h : v.constant? = some t)
    (naming : Naming) : v.literal naming = quoteConstant t := by
  cases v with
  | timestamp _ | date _ | uuid _ | json _ =>
    cases h
    rfl
  | _ => cases h

theorem Value.isNull_of_constant? {v : Value} {t : String} (h : v.constant? = some t) :
    v.isNull = false := by
  cases v with
  | null => cases h
  | _ => rfl

namespace ClauseToken

/-- The tokens around one of the comparisons. -/
theorem exists_append_of_comparisons {tokens : List ClauseToken} {before after : List Sql}
    {s : Sql} (h : comparisons tokens = before ++ s :: after) :
    ∃ ts us, tokens = ts ++ comparison s :: us ∧ comparisons ts = before ∧
      comparisons us = after := by
  induction tokens generalizing before with
  | nil => exact absurd h.symm (List.append_ne_nil_of_right_ne_nil _ (List.cons_ne_nil _ _))
  | cons t tokens ih =>
    cases t with
    | comparison u =>
      cases before with
      | nil =>
        obtain ⟨rfl, rfl⟩ := List.cons.inj h
        exact ⟨[], tokens, rfl, rfl, rfl⟩
      | cons v before =>
        obtain ⟨rfl, hr⟩ := List.cons.inj h
        obtain ⟨ts, us, rfl, rfl, rfl⟩ := ih hr
        exact ⟨_ :: ts, us, rfl, rfl, rfl⟩
    | connective _ | opening | closing =>
      obtain ⟨ts, us, rfl, rfl, rfl⟩ := ih h
      exact ⟨_ :: ts, us, rfl, rfl, rfl⟩

/-- The text around a comparison of two plain texts. -/
theorem render_around (ts us : List ClauseToken) (left right : String) (p : Params) :
    ((sqlOf (ts ++ comparison (Sql.text left ++ Sql.text right) :: us)).render p).1 =
      ((sqlOf ts).render p).1 ++ left ++ right ++
        ((sqlOf us).render (p.append (sqlOf ts).values)).1 := by
  have hs : sqlOf (ts ++ comparison (Sql.text left ++ Sql.text right) :: us) =
      sqlOf ts ++ (Sql.text left ++ (Sql.text right ++ sqlOf us)) := sqlOf_append ts _
  rw [hs, Sql.render_append]
  show _ ++ (left ++ (right ++ ((sqlOf us).render _).1)) = _
  rw [← String.append_assoc, ← String.append_assoc]

end ClauseToken

/-- Behind an operand the reader goes on with an operator or a closing parenthesis. -/
theorem Reader.cases_of_step? {outer : List Pending} {p : Pending} {f : Formula Sql}
    {t : ClauseToken} {r : Reader} (h : Reader.step? ⟨outer, p, some f⟩ t = some r) :
    (∃ c, t = .connective c) ∨ t = .closing := by
  cases t with
  | connective c => exact .inl ⟨c, rfl⟩
  | closing => exact .inr rfl
  | comparison s => cases h
  | opening => cases h

theorem Reader.exists_operand_of_step? {r r' : Reader} {s : Sql}
    (h : r.step? (.comparison s) = some r') : ∃ outer p f, r' = ⟨outer, p, some f⟩ := by
  obtain ⟨outer, p, operand⟩ := r
  cases operand with
  | none =>
    cases h
    exact ⟨outer, p, _, rfl⟩
  | some f => cases h

/-- What follows a comparison in an expression. -/
theorem exists_of_readFormula {ts us : List ClauseToken} {s : Sql} {t : ClauseToken}
    {f : Formula Sql} (h : readFormula (ts ++ .comparison s :: t :: us) = some f) :
    (∃ c, t = .connective c) ∨ t = .closing := by
  obtain ⟨r, hr, -⟩ := Option.bind_eq_some_iff.mp h
  rw [List.foldlM_append] at hr
  obtain ⟨r₁, -, hr⟩ := Option.bind_eq_some_iff.mp hr
  rw [List.foldlM_cons] at hr
  obtain ⟨r₂, hs, hr⟩ := Option.bind_eq_some_iff.mp hr
  obtain ⟨outer, p, g, rfl⟩ := Reader.exists_operand_of_step? hs
  rw [List.foldlM_cons] at hr
  obtain ⟨r₃, ht, -⟩ := Option.bind_eq_some_iff.mp hr
  exact Reader.cases_of_step? ht

/-- The text behind a comparison goes on with no quote. -/
theorem head?_render_ne_quote {ts us : List ClauseToken} {s : Sql} {f : Formula Sql}
    (h : readFormula (ts ++ .comparison s :: us) = some f) (p : Params) {rest : List Char}
    (hr : rest.head? ≠ some '\'') :
    (((ClauseToken.sqlOf us).render p).1.toList ++ rest).head? ≠ some '\'' := by
  cases us with
  | nil => exact hr
  | cons t us =>
    rcases exists_of_readFormula h with ⟨c, rfl⟩ | rfl
    · have ht : ((ClauseToken.sqlOf (.connective c :: us)).render p).1 =
          " " ++ c.keyword ++ " " ++ ((ClauseToken.sqlOf us).render p).1 := rfl
      simp [ht]
    · have ht : ((ClauseToken.sqlOf (.closing :: us)).render p).1 =
          ")" ++ ((ClauseToken.sqlOf us).render p).1 := rfl
      simp [ht]

namespace Condition

variable {naming : Naming} {op : Connective} {comparer : Comparer} {wrapped : Bool}
  {cs : List Condition} {p q : Params} {text : String}

/-- The tokens of the text that is written for conditions with a comparison. -/
theorem exists_tokens_of_renderBehind
    (h : renderBehind p (sql naming op comparer wrapped cs) = (.ok text, q))
    (hn : listComparisons comparer cs ≠ []) :
    ∃ tokens f, text = ((ClauseToken.sqlOf tokens).render p).1 ∧
      (listComparisons comparer cs).map (Comparison.sql? naming) =
        (ClauseToken.comparisons tokens).map some ∧ readFormula tokens = some f := by
  unfold sql at h
  cases hc : clauses naming op comparer cs with
  | error u =>
    rw [hc] at h
    cases h
  | ok ts =>
    rw [hc] at h
    cases h
    have hm := listComparisons_of_clauses hc
    have hr : Reads op (if wrapped then ClauseToken.parenthesized ts else ts)
        (listFormula op comparer cs) := by
      split
      · exact (reads_clauses hc).parenthesized
      · exact reads_clauses hc
    have ha := atomsOf_listFormula op comparer cs
    cases hf : listFormula op comparer cs with
    | none =>
      rw [hf] at ha
      exact absurd ha.symm hn
    | some r =>
      rw [hf] at hr
      obtain ⟨f, hf, -⟩ := hr.readFormula
      refine ⟨_, f, rfl, ?_, hf⟩
      rw [hm]
      split <;> simp

/-- What is written in place for a constant. -/
theorem sql?_of_constant? {x : Comparison} {t : String} (hx : x.inPlace = true)
    (ht : x.value.constant? = some t) :
    x.sql? naming = some (Sql.text (x.key ++ " " ++ x.comparer.symbol ++ " ") ++
      Sql.text (quoteConstant t)) := by
  unfold Comparison.sql? Comparison.left Comparison.right
  rw [Value.isNull_of_constant? ht, if_pos hx, if_pos hx, Value.literal_of_constant? ht]
  rfl

/-- Names and texts between quotes are read back in front of every rest that does not start with
such a quote, and nothing else is read as them. So where a condition compares in place with an
instant, a date, an identifier or JSON, at whatever depth, there is one string constant behind the
operator. It is read as the text of the value, whatever follows the conditions, unless that starts
with a quote. -/
theorem quoted_reads_back (naming : Naming) :
    (∀ (name : String) (input rest : List Char),
      Delimited.decode '"' input = some (name.toList, rest) ↔
        input = (quoteIdentifier name).toList ++ rest ∧ rest.head? ≠ some '"') ∧
    (∀ (text : String) (input rest : List Char),
      Delimited.decode '\'' input = some (text.toList, rest) ↔
        input = (quoteConstant text).toList ++ rest ∧ rest.head? ≠ some '\'') ∧
    ∀ op comparer wrapped cs p text q,
      renderBehind p (sql naming op comparer wrapped cs) = (.ok text, q) →
      ∀ xs x ys t, listComparisons comparer cs = xs ++ x :: ys → x.inPlace = true →
        x.value.constant? = some t →
        ∃ ts us, xs.map (Comparison.sql? naming) = (ClauseToken.comparisons ts).map some ∧
          ys.map (Comparison.sql? naming) = (ClauseToken.comparisons us).map some ∧
          let after := ((ClauseToken.sqlOf us).render (p.append (ClauseToken.sqlOf ts).values)).1
          text = ((ClauseToken.sqlOf ts).render p).1 ++
            (x.key ++ " " ++ x.comparer.symbol ++ " ") ++ quoteConstant t ++ after ∧
          ∀ rest : List Char, rest.head? ≠ some '\'' →
            Delimited.decode '\'' ((quoteConstant t).toList ++ (after.toList ++ rest)) =
              some (t.toList, after.toList ++ rest) := by
  refine ⟨fun _ _ _ => decode_quoteIdentifier_iff, fun _ _ _ => decode_quoteConstant_iff, ?_⟩
  intro op comparer wrapped cs p text q h xs x ys t hs hx ht
  have hn : listComparisons comparer cs ≠ [] := by
    rw [hs]
    exact List.append_ne_nil_of_right_ne_nil _ (List.cons_ne_nil _ _)
  obtain ⟨tokens, f, rfl, hm, hf⟩ := exists_tokens_of_renderBehind h hn
  rw [hs, List.map_append, List.map_cons, sql?_of_constant? hx ht] at hm
  obtain ⟨before, rest, hc, hb, hr⟩ := List.map_eq_append_iff.mp hm.symm
  obtain ⟨s, after, rfl, hv, ha⟩ := List.map_eq_cons_iff.mp hr
  obtain ⟨ts, us, rfl, rfl, rfl⟩ := ClauseToken.exists_append_of_comparisons hc
  cases hv
  refine ⟨ts, us, hb.symm, ha.symm, ClauseToken.render_around ts us _ _ p, fun rest hr => ?_⟩
  exact decode_quoteConstant_iff.mpr ⟨rfl, head?_render_ne_quote hf _ hr⟩

/-- A note in which a quote closes and opens again, compared in a group and in front of another
comparison. -/
def quotedNotes : List Condition :=
  [.group (.logical .or) [.raw "note" (.json (.string "it's ''")), .leaf "id" (.int 7)]]

theorem quotedNotes_reads_back :
    let naming : Naming := ⟨.snake, .camel⟩
    let text := "(note = '\"it''s ''''\"' OR \"id\" = $1)"
    let constant := "\"it's ''\""
    renderBehind .empty (sql naming .and .eq false quotedNotes) = (.ok text, ⟨[.int 7]⟩) ∧
      ∃ before after, text = before ++ "note = " ++ quoteConstant constant ++ after ∧
        Delimited.decode '\'' ((quoteConstant constant).toList ++
          (after.toList ++ " LIMIT 1".toList)) =
            some (constant.toList, after.toList ++ " LIMIT 1".toList) := by
  intro naming text constant
  have h : renderBehind .empty (sql naming .and .eq false quotedNotes) =
      (.ok text, ⟨[.int 7]⟩) := by rfl
  obtain ⟨-, -, hc⟩ := quoted_reads_back naming
  obtain ⟨ts, us, -, -, ht, hd⟩ := hc _ _ _ _ _ _ _ h [] _ _ constant rfl rfl (by rfl)
  exact ⟨h, _, _, ht, hd _ (by decide)⟩

end Condition

end SqlCompose
