import SqlCompose.Proofs.Condition.Leaf
import SqlCompose.Proofs.Condition.Outcome
import SqlCompose.Proofs.Condition.Sequence
import SqlCompose.Proofs.Sql.Writing
import SqlCompose.Proofs.Statement.Placeholder

/-!
# Writing conditions in steps

Conditions are written as a step (`Condition.write`). The step of a list is made of the steps of its
parts, whose texts are separated by the operator unless they are empty (`write_append`), and without
dollar signs of their own it is its own relocation (`relocated_write`). So each part has the text
that it has alone, but for the numbers of its placeholders.
-/

namespace SqlCompose

namespace Text

/-- The texts that are not empty, with a separator between them. -/
def separated (sep : String) (parts : List String) : String :=
  sep.intercalate (parts.filter (!·.isEmpty))

variable {sep : String}

theorem separated_empty_cons (parts : List String) :
    separated sep ("" :: parts) = separated sep parts := rfl

theorem separated_singleton (t : String) : separated sep [t] = t := by
  unfold separated
  by_cases ht : t = ""
  · rw [ht]
    rfl
  · rw [List.filter_cons_of_pos (by simp [ht])]
    exact String.intercalate_singleton

theorem separated_pair_empty (t : String) : separated sep [t, ""] = t := by
  calc separated sep [t, ""] = separated sep [t] := by
        unfold separated
        by_cases ht : t = "" <;> simp [ht]
    _ = t := separated_singleton t

theorem separated_pair {s t : String} (hs : s ≠ "") (ht : t ≠ "") :
    separated sep [s, t] = s ++ sep ++ t := by
  unfold separated
  rw [List.filter_cons_of_pos (by simp [hs]), List.filter_cons_of_pos (by simp [ht])]
  exact String.intercalate_cons_cons.trans (congrArg _ String.intercalate_singleton)

/-- Texts may be separated among themselves first. -/
theorem separated_cons (t : String) (parts : List String) :
    separated sep [t, separated sep parts] = separated sep (t :: parts) := by
  by_cases ht : t = ""
  · rw [ht, separated_empty_cons, separated_singleton]
    rfl
  · by_cases hp : parts.filter (!·.isEmpty) = []
    · have he : separated sep parts = "" := by
        unfold separated
        rw [hp]
        rfl
      rw [he, separated_pair_empty]
      unfold separated
      rw [List.filter_cons_of_pos (by simp [ht]), hp]
      exact String.intercalate_singleton.symm
    · have hn : separated sep parts ≠ "" := by
        have he : (sep.intercalate (parts.filter (!·.isEmpty))).isEmpty = false :=
          isEmpty_intercalate hp fun t ht => by simpa using (List.mem_filter.mp ht).2
        intro hs
        unfold separated at hs
        rw [hs] at he
        cases he
      rw [separated_pair ht hn]
      unfold separated
      rw [List.filter_cons_of_pos (by simp [ht]), String.intercalate_cons_of_ne_nil hp]

end Text

namespace Condition

/-- Writes conditions. -/
def write (naming : Naming) (op : Connective) (comparer : Comparer) (wrapped : Bool)
    (cs : List Condition) : Writing String :=
  ExceptT.mk fun p => renderBehind p (sql naming op comparer wrapped cs)

variable {naming : Naming} {op : Connective} {comparer : Comparer} {cs : List Condition}
  {tokens : List ClauseToken}

theorem behind_write (wrapped : Bool) (p : Params) :
    (write naming op comparer wrapped cs).behind p =
      renderBehind p (sql naming op comparer wrapped cs) := rfl

theorem behind_write_of_ok (h : clauses naming op comparer cs = .ok tokens) (p : Params) :
    (write naming op comparer false cs).behind p = (.ok ((ClauseToken.sqlOf tokens).render p).1,
      p.append (ClauseToken.sqlOf tokens).values) := by
  rw [behind_write, sql, h, ← Sql.render_snd]
  rfl

theorem behind_write_of_error {u : Unwritable} (h : clauses naming op comparer cs = .error u)
    (p : Params) :
    (write naming op comparer false cs).behind p = (.error u.cause, p.append u.bound) := by
  rw [behind_write, sql, h]
  rfl

/-! ## One list behind the other -/

theorem render_connect {ds : List Condition} {left right : List ClauseToken}
    (hl : clauses naming op comparer cs = .ok left)
    (hr : clauses naming op comparer ds = .ok right) (p : Params) :
    ((ClauseToken.sqlOf (ClauseToken.connect op left right)).render p).1 =
      Text.separated (" " ++ op.keyword ++ " ") [((ClauseToken.sqlOf left).render p).1,
        ((ClauseToken.sqlOf right).render (p.append (ClauseToken.sqlOf left).values)).1] := by
  cases left with
  | nil =>
    show _ = Text.separated _ ["", ((ClauseToken.sqlOf right).render (p.append [])).1]
    rw [Text.separated_empty_cons, Text.separated_singleton, Params.append_nil]
    rfl
  | cons t ts =>
    cases right with
    | nil =>
      rw [ClauseToken.connect_nil]
      exact (Text.separated_pair_empty _).symm
    | cons u us =>
      have hne {es : List Condition} {v : ClauseToken} {vs : List ClauseToken}
          (h : clauses naming op comparer es = .ok (v :: vs)) (q : Params) :
          ((ClauseToken.sqlOf (v :: vs)).render q).1 ≠ "" := by
        rw [Ne, render_clauses_eq_empty_iff h q, ← clauses_eq_nil_iff h]
        exact List.cons_ne_nil v vs
      rw [Text.separated_pair (hne hl p) (hne hr _), ClauseToken.connect_cons,
        ClauseToken.sqlOf_append, Sql.render_append, String.append_assoc]
      rfl

/-- Conditions behind others are written once these are. The texts are joined by the operator unless
one of them is empty, and the first failure is the failure of both. -/
theorem write_append (xs ys : List Condition) :
    write naming op comparer false (xs ++ ys) = do
      let left ← write naming op comparer false xs
      let right ← write naming op comparer false ys
      return Text.separated (" " ++ op.keyword ++ " ") [left, right] := by
  refine Writing.ext fun p => ?_
  have ha : clauses naming op comparer (xs ++ ys) = _ := clauses_append xs ys
  rw [Writing.behind_bind]
  cases hx : clauses naming op comparer xs with
  | error u =>
    rw [hx] at ha
    rw [behind_write_of_error hx, behind_write_of_error ha]
  | ok left =>
    rw [behind_write_of_ok hx]
    show _ = (write naming op comparer false ys >>= fun right => pure _).behind _
    rw [Writing.behind_bind]
    cases hy : clauses naming op comparer ys with
    | error u =>
      rw [hx, hy] at ha
      rw [behind_write_of_error hy, behind_write_of_error ha, Params.append_append]
      rfl
    | ok right =>
      rw [hx, hy] at ha
      rw [behind_write_of_ok hy, behind_write_of_ok ha, render_connect hx hy,
        ClauseToken.values_connect, Params.append_append]
      rfl

/-- Lists of conditions are written one after the other. -/
theorem write_flatten (lists : List (List Condition)) :
    write naming op comparer false lists.flatten = Text.separated (" " ++ op.keyword ++ " ") <$>
      lists.mapM (write naming op comparer false) := by
  induction lists with
  | nil => rfl
  | cons cs lists ih =>
    rw [List.flatten_cons, write_append, ih, List.mapM_cons]
    simp only [map_eq_pure_bind, bind_assoc, pure_bind, Text.separated_cons]

/-! ## Relocation -/

/-- It does not depend on the comparer in force whether a leaf has a dollar sign. -/
theorem DollarFree.of_mem (h : DollarFree cs) {c : Comparison}
    (hc : c ∈ listComparisons comparer cs) : c.DollarFree := by
  have hs (start : Comparer) : listComparisons start cs =
      (listOccurrences [] cs).map (Occurrence.comparison start) := listComparisons_eq start [] cs
  rw [hs] at hc
  obtain ⟨o, ho, rfl⟩ := List.mem_map.mp hc
  have hd : (o.comparison .eq).DollarFree := by
    refine h _ ?_
    rw [hs]
    exact List.mem_map_of_mem ho
  exact ⟨hd.key, hd.value⟩

theorem numbered_of_sql (h : DollarFree cs) {wrapped : Bool} {s : Sql}
    (hs : sql naming op comparer wrapped cs = .ok s) : s.Numbered := by
  obtain ⟨tokens, ht, rfl⟩ := map_eq_ok hs
  have hn := numbered_of_clauses ht fun c hc => h.of_mem hc
  cases wrapped with
  | false => exact hn
  | true =>
    cases tokens with
    | nil => exact Sql.numbered_nil
    | cons t ts => exact ClauseToken.numbered_parenthesized hn

/-- Conditions without dollar signs have the outcome that they have behind no parameters, moved
behind those there are. -/
theorem relocated_write (h : DollarFree cs) (wrapped : Bool) :
    (write naming op comparer wrapped cs).relocated = write naming op comparer wrapped cs := by
  refine Writing.ext fun p => ?_
  show (Except.map _ (renderBehind .empty _).1, p.append (renderBehind .empty _).2.values) = _
  rw [behind_write]
  cases hs : sql naming op comparer wrapped cs with
  | error u => rfl
  | ok s =>
    show (Except.ok (renumbered p.size (s.render .empty).1),
      p.append (s.render .empty).2.values) = (Except.ok (s.render p).1, (s.render p).2)
    rw [(numbered_of_sql h hs).render_eq_renumbered p, Sql.render_snd, Sql.render_snd]
    rfl

end Condition

end SqlCompose
