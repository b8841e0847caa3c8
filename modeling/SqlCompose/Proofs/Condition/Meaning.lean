import SqlCompose.Proofs.Condition.Precedence

/-!
# What conditions mean

The formula of conditions follows the tree: conditions are combined by the operator in force, a
logical group replaces that operator, a comparison group replaces the comparer, and a group without
comparisons contributes nothing. The expression written for conditions reads as a formula with the
same value (`sql_reads_as_listFormula`), although parentheses stand only where the operator changes.

The invariant is `Reads`: what is written where an operator is in force derives at the rank of that
operator. So it may stand as it is among others joined by the same operator, and in parentheses it
may stand anywhere.
-/

namespace SqlCompose.Condition

mutual

/-- The formula of a condition, where `op` and `comparer` are in force, unless it holds no
comparison. -/
def formula (op : Connective) (comparer : Comparer) : Condition → Option (Formula Comparison)
  | .leaf key value => some (.atom ⟨comparer, false, key, value⟩)
  | .raw expression value => some (.atom ⟨comparer, true, expression, value⟩)
  | .group (.logical c) children => listFormula c comparer children
  | .group (.compare c) children => listFormula op c children

/-- The formula of conditions, combined by the operator in force. -/
def listFormula (op : Connective) (comparer : Comparer) :
    List Condition → Option (Formula Comparison)
  | [] => none
  | c :: cs => Formula.joined op (formula op comparer c) (listFormula op comparer cs)

end

/-- The occurrences of atoms in a formula that may be missing. -/
def atomsOf (f : Option (Formula Comparison)) : List Comparison := (f.map Formula.atoms).getD []

@[simp] theorem atomsOf_joined (c : Connective) (f g : Option (Formula Comparison)) :
    atomsOf (Formula.joined c f g) = atomsOf f ++ atomsOf g := by
  cases f <;> cases g <;> simp [atomsOf, Formula.joined, Formula.atoms]

mutual

theorem atomsOf_formula (op : Connective) (comparer : Comparer) :
    ∀ c : Condition, atomsOf (formula op comparer c) = comparisons comparer c
  | .leaf _ _ => rfl
  | .raw _ _ => rfl
  | .group (.logical c) children => atomsOf_listFormula c comparer children
  | .group (.compare c) children => atomsOf_listFormula op c children

/-- The atoms of the formula are the comparisons, each once and in order. -/
theorem atomsOf_listFormula (op : Connective) (comparer : Comparer) :
    ∀ cs : List Condition, atomsOf (listFormula op comparer cs) = listComparisons comparer cs
  | [] => rfl
  | c :: cs => by
    rw [listFormula, listComparisons, atomsOf_joined, atomsOf_formula op comparer c,
      atomsOf_listFormula op comparer cs]

end

/-- The tokens, written where `op` is in force, read as a formula that may be missing. -/
def Reads (op : Connective) (tokens : List ClauseToken) : Option (Formula Comparison) → Prop
  | none => tokens = []
  | some r => ∃ f, Derives op.rank tokens f ∧ f.Agrees r

variable {naming : Naming} {op : Connective} {comparer : Comparer}

/-- Expressions joined by the operator in force read as their formulas joined by it. -/
theorem Reads.connect {ts us : List ClauseToken} {f g : Option (Formula Comparison)}
    (hf : Reads op ts f) (hg : Reads op us g) :
    Reads op (ClauseToken.connect op ts us) (Formula.joined op f g) := by
  cases f with
  | none =>
    obtain rfl : ts = [] := hf
    exact hg
  | some f =>
    obtain ⟨f', hf', hfa⟩ := hf
    cases g with
    | none =>
      obtain rfl : us = [] := hg
      rw [ClauseToken.connect_nil]
      exact ⟨f', hf', hfa⟩
    | some g =>
      obtain ⟨g', hg', hga⟩ := hg
      obtain ⟨k, hk, hka⟩ := hf'.exists_joined hg'
      obtain ⟨t, ts, rfl⟩ := List.exists_cons_of_ne_nil hf'.ne_nil
      obtain ⟨u, us, rfl⟩ := List.exists_cons_of_ne_nil hg'.ne_nil
      rw [ClauseToken.connect_cons]
      exact ⟨k, hk, hka.trans (hfa.node hga)⟩

/-- In parentheses an expression is an operand. -/
theorem Reads.parenthesized {c : Connective} {ts : List ClauseToken}
    {f : Option (Formula Comparison)} (h : Reads c ts f) :
    Reads op (ClauseToken.parenthesized ts) f := by
  cases f with
  | none =>
    obtain rfl : ts = [] := h
    rfl
  | some f =>
    obtain ⟨f', hf', hfa⟩ := h
    obtain ⟨t, ts, rfl⟩ := List.exists_cons_of_ne_nil hf'.ne_nil
    exact ⟨f', (Derives.parenthesized hf'.toDisjunction).ofOperand op, hfa⟩

theorem reads_comparison {c : Comparison} {tokens : List ClauseToken}
    (h : c.clause naming = .ok tokens) : Reads op tokens (some (.atom c)) := by
  obtain ⟨sql, -, rfl⟩ := Comparison.clause_ok h
  exact ⟨.atom sql, (Derives.comparison sql).ofOperand op, rfl, fun _ _ => rfl⟩

mutual

theorem reads_clause {op : Connective} {comparer : Comparer} :
    ∀ {c : Condition} {tokens : List ClauseToken}, clause naming op comparer c = .ok tokens →
      Reads op tokens (formula op comparer c)
  | .leaf key value, tokens, h => by
    rw [clause_leaf] at h
    exact reads_comparison h
  | .raw expression value, tokens, h => by
    rw [clause_raw] at h
    exact reads_comparison h
  | .group (.logical c) children, tokens, h => by
    obtain ⟨ts, hts, rfl⟩ := clause_logical_ok h
    rw [formula]
    split
    · rename_i hc
      subst hc
      exact reads_clauses hts
    · exact (reads_clauses hts).parenthesized
  | .group (.compare c) children, tokens, h => by
    rw [clause_compare] at h
    exact reads_clauses h

/-- What is written for conditions reads as their formula. -/
theorem reads_clauses {op : Connective} {comparer : Comparer} :
    ∀ {cs : List Condition} {tokens : List ClauseToken},
      clauses naming op comparer cs = .ok tokens →
      Reads op tokens (listFormula op comparer cs)
  | [], tokens, h => by
    cases h
    rfl
  | c :: cs, tokens, h => by
    obtain ⟨left, right, hl, hr, rfl⟩ := clauses_cons_ok h
    exact (reads_clause hl).connect (reads_clauses hr)

end

/-- What reads as a formula is read as one with the same value. -/
theorem Reads.readFormula {ts : List ClauseToken} {r : Formula Comparison}
    (h : Reads op ts (some r)) : ∃ f, readFormula ts = some f ∧
      f.atoms = ClauseToken.comparisons ts ∧ ∀ ρ, f.value ρ 0 = r.value ρ 0 := by
  obtain ⟨f, hf, hfa⟩ := h
  exact ⟨f, readFormula_of_derives hf.toDisjunction, hf.atoms_eq, fun ρ => hfa.value_eq ρ 0⟩

/-- The text written for conditions is made of tokens whose comparisons are those of the conditions,
each once and in order. Read by the precedence of SQL, the tokens are a formula that has the value
of the conditions whatever the values of the comparisons. There are no tokens where the conditions
hold no comparison. -/
theorem sql_reads_as_listFormula {naming : Naming} {op : Connective} {comparer : Comparer}
    {wrapped : Bool} {cs : List Condition} {p q : Params} {text : String}
    (h : renderBehind p (sql naming op comparer wrapped cs) = (.ok text, q)) :
    ∃ tokens : List ClauseToken,
      text = ((ClauseToken.sqlOf tokens).render p).1 ∧
      (listComparisons comparer cs).map (Comparison.sql? naming) =
        (ClauseToken.comparisons tokens).map some ∧
      match listFormula op comparer cs with
      | none => tokens = []
      | some r => r.atoms = listComparisons comparer cs ∧
          ∃ f, readFormula tokens = some f ∧ f.atoms = ClauseToken.comparisons tokens ∧
            ∀ ρ, f.value ρ 0 = r.value ρ 0 := by
  unfold sql at h
  cases hc : clauses naming op comparer cs with
  | error u => simp [hc, Except.map, renderBehind] at h
  | ok ts =>
    simp only [hc, Except.map, renderBehind, Prod.mk.injEq, Except.ok.injEq] at h
    refine ⟨_, h.1.symm, ?_, ?_⟩
    · rw [listComparisons_of_clauses hc]
      split <;> simp
    · have ha := atomsOf_listFormula op comparer cs
      have hr : Reads op (if wrapped then ClauseToken.parenthesized ts else ts)
          (listFormula op comparer cs) := by
        split
        · exact (reads_clauses hc).parenthesized
        · exact reads_clauses hc
      cases hf : listFormula op comparer cs with
      | none =>
        rw [hf] at hr
        exact hr
      | some r =>
        rw [hf] at hr ha
        exact ⟨ha, hr.readFormula⟩

/-- A column that has one of two values, and an expression that is true. -/
def eitherAndRaw : List Condition :=
  [.group (.logical .or) [.leaf "a" (.int 1), .leaf "a" (.int 2)], .raw "b" (.bool true)]

theorem eitherAndRaw_reads :
    renderBehind .empty (sql ⟨.snake, .camel⟩ .and .eq false eitherAndRaw) =
        (.ok "(\"a\" = $1 OR \"a\" = $2) AND b = TRUE", ⟨[.int 1, .int 2]⟩) ∧
      ∃ tokens f, readFormula tokens = some f ∧
        ∀ ρ, f.value ρ 0 = Connective.and.apply (Connective.or.apply (ρ 0) (ρ 1)) (ρ 2) := by
  have h : renderBehind .empty (sql ⟨.snake, .camel⟩ .and .eq false eitherAndRaw) =
      (.ok "(\"a\" = $1 OR \"a\" = $2) AND b = TRUE", ⟨[.int 1, .int 2]⟩) := by rfl
  obtain ⟨tokens, -, -, -, f, hf, -, hv⟩ := sql_reads_as_listFormula h
  exact ⟨h, tokens, f, hf, hv⟩

end SqlCompose.Condition
