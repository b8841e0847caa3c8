import SqlCompose.Proofs.Condition.Meaning
import SqlCompose.Proofs.Sql.Spaced

/-!
# The leaves of conditions

The leaves of conditions are what compares, at whatever depth; groups only say how. What is written
for a leaf has a space in it whatever its key, so it is never empty and never a single word. An
expression is therefore empty just if there are no leaves (`render_clauses_eq_empty_iff`), and the
text of each leaf is part of it (`exists_render_of_mem_comparisons`).
-/

namespace SqlCompose

/-- The leaf that compares. -/
def Comparison.node (c : Comparison) : Condition :=
  if c.inPlace then .raw c.key c.value else .leaf c.key c.value

namespace Condition

/-- Does the condition compare, and hold no other conditions? -/
def IsLeaf : Condition → Prop
  | .group _ _ => False
  | _ => True

/-- The condition stands among the conditions or, at some depth, in a group of theirs. -/
inductive Within (c : Condition) : List Condition → Prop
  | among {cs : List Condition} (h : c ∈ cs) : Within c cs
  | inGroup {cs children : List Condition} {m : Modifier} (hg : .group m children ∈ cs)
      (h : Within c children) : Within c cs

/-- Is there a leaf at some depth? -/
def HasLeaf (cs : List Condition) : Prop := ∃ c : Condition, c.IsLeaf ∧ Within c cs

variable {c d : Condition} {cs : List Condition} {comparer : Comparer} {x : Comparison}

theorem Within.cons (h : Within c cs) (d : Condition) : Within c (d :: cs) := by
  cases h with
  | among h => exact .among (List.mem_cons_of_mem d h)
  | inGroup hg h => exact .inGroup (List.mem_cons_of_mem d hg) h

theorem isLeaf_node (x : Comparison) : x.node.IsLeaf := by
  unfold Comparison.node
  split <;> trivial

theorem mem_listComparisons_of_mem (hx : x ∈ comparisons comparer c) (hc : c ∈ cs) :
    x ∈ listComparisons comparer cs := by
  induction cs with
  | nil => cases hc
  | cons d cs ih =>
    rw [listComparisons, List.mem_append]
    rcases List.mem_cons.mp hc with rfl | hc
    · exact .inl hx
    · exact .inr (ih hc)

/-- The comparer in force at a leaf depends on the groups around it, but that it compares does
not. -/
theorem exists_comparison_of_within (hl : c.IsLeaf) (h : Within c cs) (comparer : Comparer) :
    ∃ x ∈ listComparisons comparer cs, x.node = c := by
  induction h generalizing comparer with
  | among h =>
    cases c with
    | leaf key value =>
      exact ⟨⟨comparer, false, key, value⟩,
        mem_listComparisons_of_mem List.mem_cons_self h, rfl⟩
    | raw expression value =>
      exact ⟨⟨comparer, true, expression, value⟩,
        mem_listComparisons_of_mem List.mem_cons_self h, rfl⟩
    | group m children => exact hl.elim
  | @inGroup cs children m hg _ ih =>
    cases m with
    | logical op =>
      obtain ⟨x, hx, hn⟩ := ih comparer
      exact ⟨x, mem_listComparisons_of_mem (by rwa [comparisons]) hg, hn⟩
    | compare c' =>
      obtain ⟨x, hx, hn⟩ := ih c'
      exact ⟨x, mem_listComparisons_of_mem (by rwa [comparisons]) hg, hn⟩

mutual

theorem within_of_mem_comparisons {comparer : Comparer} {cs : List Condition} :
    ∀ c : Condition, x ∈ comparisons comparer c → c ∈ cs → Within x.node cs
  | .leaf key value, hx, hc => by
    obtain rfl := List.mem_singleton.mp hx
    exact .among hc
  | .raw expression value, hx, hc => by
    obtain rfl := List.mem_singleton.mp hx
    exact .among hc
  | .group (.logical _) children, hx, hc =>
    .inGroup hc (within_of_mem_listComparisons children hx)
  | .group (.compare _) children, hx, hc =>
    .inGroup hc (within_of_mem_listComparisons children hx)

theorem within_of_mem_listComparisons {comparer : Comparer} :
    ∀ cs : List Condition, x ∈ listComparisons comparer cs → Within x.node cs
  | c :: cs, hx => by
    rcases List.mem_append.mp hx with hx | hx
    · exact within_of_mem_comparisons c hx List.mem_cons_self
    · exact (within_of_mem_listComparisons cs hx).cons c

end

/-- The comparisons in conditions are those of their leaves. -/
theorem mem_map_node_iff (comparer : Comparer) :
    c ∈ (listComparisons comparer cs).map Comparison.node ↔ c.IsLeaf ∧ Within c cs := by
  rw [List.mem_map]
  constructor
  · rintro ⟨x, hx, rfl⟩
    exact ⟨isLeaf_node x, within_of_mem_listComparisons cs hx⟩
  · rintro ⟨hl, hw⟩
    exact exists_comparison_of_within hl hw comparer

theorem hasLeaf_iff (comparer : Comparer) : HasLeaf cs ↔ listComparisons comparer cs ≠ [] := by
  unfold HasLeaf
  simp only [← mem_map_node_iff comparer]
  constructor
  · rintro ⟨c, hc⟩ hn
    rw [hn] at hc
    cases hc
  · intro hn
    obtain ⟨x, hx⟩ := List.exists_mem_of_ne_nil _ hn
    exact ⟨x.node, List.mem_map_of_mem hx⟩

/-! ## The text of leaves -/

variable {naming : Naming} {op : Connective} {tokens : List ClauseToken}

/-- There is a space in front of the operator of a comparison. -/
theorem space_mem_render {s : Sql} (h : x.sql? naming = some s) (p : Params) :
    ' ' ∈ (s.render p).1.toList := by
  unfold Comparison.sql? at h
  split at h
  · obtain ⟨test, -, rfl⟩ := Option.map_eq_some_iff.mp h
    rw [Sql.render_text]
    simp
  · cases h
    show ' ' ∈ (x.left naming ++ " " ++ x.comparer.symbol ++ " " ++ _).toList
    simp

/-- The SQL of each comparison is part of the expression, behind some parameters. -/
theorem exists_render_of_mem_comparisons {s : Sql} (h : s ∈ ClauseToken.comparisons tokens)
    (p : Params) : ∃ before q after,
      ((ClauseToken.sqlOf tokens).render p).1 = before ++ (s.render q).1 ++ after := by
  have ht : ClauseToken.comparison s ∈ tokens := by
    induction tokens with
    | nil => cases h
    | cons t ts ih =>
      cases t with
      | comparison u =>
        rcases List.mem_cons.mp h with rfl | h
        · exact List.mem_cons_self
        · exact List.mem_cons_of_mem _ (ih h)
      | connective _ | opening | closing => exact List.mem_cons_of_mem _ (ih h)
  obtain ⟨ts, us, rfl⟩ := List.append_of_mem ht
  have hs : ClauseToken.sqlOf (ts ++ .comparison s :: us) =
      ClauseToken.sqlOf ts ++ (s ++ ClauseToken.sqlOf us) := ClauseToken.sqlOf_append ts _
  rw [hs, Sql.render_append, Sql.render_append, ← String.append_assoc]
  exact ⟨_, _, _, rfl⟩

/-- There are no tokens just if there are no leaves. -/
theorem clauses_eq_nil_iff (h : clauses naming op comparer cs = .ok tokens) :
    tokens = [] ↔ ¬ HasLeaf cs := by
  rw [hasLeaf_iff comparer, Classical.not_not, ← atomsOf_listFormula op comparer cs]
  have hr := reads_clauses h
  cases hf : listFormula op comparer cs with
  | none =>
    rw [hf] at hr
    exact iff_of_true hr rfl
  | some r =>
    rw [hf] at hr
    obtain ⟨f, hd, -⟩ := hr
    refine iff_of_false hd.ne_nil ?_
    have hn : ∀ g : Formula Comparison, g.atoms ≠ [] := by
      intro g
      induction g with
      | atom a => exact List.cons_ne_nil a []
      | node _ _ _ ih _ => exact List.append_ne_nil_of_left_ne_nil ih _
    exact hn r

/-- Where there are leaves, the expression has a space in it. -/
theorem space_mem_render_clauses (h : clauses naming op comparer cs = .ok tokens)
    (hl : HasLeaf cs) (p : Params) : ' ' ∈ ((ClauseToken.sqlOf tokens).render p).1.toList := by
  have hm := listComparisons_of_clauses h
  cases hx : listComparisons comparer cs with
  | nil => exact absurd hx ((hasLeaf_iff comparer).mp hl)
  | cons x xs =>
    cases hc : ClauseToken.comparisons tokens with
    | nil =>
      rw [hx, hc] at hm
      cases hm
    | cons s ss =>
      rw [hx, hc] at hm
      have hmem : s ∈ ClauseToken.comparisons tokens := by
        rw [hc]
        exact List.mem_cons_self
      obtain ⟨before, q, after, he⟩ := exists_render_of_mem_comparisons hmem p
      have hs := space_mem_render (List.cons.inj hm).1 q
      rw [he]
      simp [hs]

/-- The text of an expression is empty just if there are no leaves. -/
theorem render_clauses_eq_empty_iff (h : clauses naming op comparer cs = .ok tokens) (p : Params) :
    ((ClauseToken.sqlOf tokens).render p).1 = "" ↔ ¬ HasLeaf cs := by
  constructor
  · intro he hl
    have hs := space_mem_render_clauses h hl p
    rw [he] at hs
    cases hs
  · intro hl
    rw [(clauses_eq_nil_iff h).mpr hl]
    rfl

end Condition

end SqlCompose
