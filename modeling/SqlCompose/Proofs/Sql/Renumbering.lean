import SqlCompose.Proofs.Number.Integer
import SqlCompose.Proofs.Sql.Placeholder

/-!
# Renumbered placeholders

SQL that is written behind other parameters has higher numbers in its text. If the placeholders of
its text are always those of its bound values, then nothing else about the text depends on the
parameters in front: it is the text written behind none, where the number of every placeholder goes
up by the number of these parameters (`Sql.Numbered.render_eq_renumbered`).
-/

namespace SqlCompose

/-- The text where the number of every placeholder goes up by `n`. -/
def renumber (n : Nat) : List Char → List Char
  | [] => []
  | c :: s =>
    if c = '$' ∧ s.takeWhile Char.isDigit ≠ [] then
      (Params.mark (n + Nat.ofDigitChars 10 (s.takeWhile Char.isDigit) 0)).toList ++
        renumber n (s.dropWhile Char.isDigit)
    else c :: renumber n s
termination_by s => s.length
decreasing_by
  · exact Nat.lt_succ_of_le (List.dropWhile_sublist _).length_le
  · exact Nat.lt_succ_self _

/-- The text where the number of every placeholder goes up by `n`. -/
def renumbered (n : Nat) (s : String) : String := String.ofList (renumber n s.toList)

/-- A placeholder in the text behind is one of the whole text. -/
theorem exists_placeholders_append (s t : List Char) :
    ∃ more, placeholders (s ++ t) = more ++ placeholders t := by
  induction s with
  | nil => exact ⟨[], rfl⟩
  | cons c s ih =>
    obtain ⟨more, hm⟩ := ih
    rw [List.cons_append, placeholders, hm]
    split
    · exact ⟨_ :: more, rfl⟩
    · exact ⟨more, rfl⟩

/-- A text in which no placeholder starts stays as it is. -/
theorem renumber_append (n : Nat) {s t : List Char}
    (h : placeholders (s ++ t) = placeholders t) : renumber n (s ++ t) = s ++ renumber n t := by
  induction s with
  | nil => rfl
  | cons c s ih =>
    rw [List.cons_append, placeholders] at h
    split at h
    · -- The number read here would be one more than those of `t`.
      obtain ⟨more, hm⟩ := exists_placeholders_append s t
      have hl := congrArg List.length h
      rw [hm, List.length_cons, List.length_append] at hl
      omega
    · rename_i hc
      rw [List.cons_append, renumber, if_neg hc, ih h, List.cons_append]

/-- A placeholder that no digit follows is renumbered on its own. -/
theorem renumber_mark_append (n k : Nat) {t : List Char} (ht : NoDigitAhead t) :
    renumber n ((Params.mark k).toList ++ t) = (Params.mark (n + k)).toList ++ renumber n t := by
  have hk : ∀ c ∈ Nat.toDigits 10 k, c.isDigit = true := fun c hc =>
    Nat.isDigit_of_mem_toDigits (by decide) (by decide) hc
  have hd : (Nat.toDigits 10 k ++ t).takeWhile Char.isDigit = Nat.toDigits 10 k := by
    rw [List.takeWhile_append_of_pos hk, ht, List.append_nil]
  have ht' : t.dropWhile Char.isDigit = t := by
    have hs := List.takeWhile_append_dropWhile (p := Char.isDigit) (l := t)
    rwa [ht, List.nil_append] at hs
  rw [Params.toList_mark k, List.cons_append, renumber, hd, if_pos ⟨rfl, Nat.toDigits_ne_nil⟩,
    Nat.ofDigitChars_ten_toDigits, List.dropWhile_append_of_pos hk, ht']

/-- Digits behind a number that is not zero change it. -/
theorem noDigitAhead_of_ofDigitChars_eq {k : Nat} (hk : 0 < k) {t : List Char}
    (h : Nat.ofDigitChars 10 (t.takeWhile Char.isDigit) k = k) : NoDigitAhead t := by
  unfold NoDigitAhead
  cases hd : t.takeWhile Char.isDigit with
  | nil => rfl
  | cons c s =>
    rw [hd, Nat.ofDigitChars_cons] at h
    have hle := le_ofDigitChars s (10 * k + (c.toNat - '0'.toNat))
    omega

namespace Sql

/-- Each bound value has a placeholder in the text. -/
theorem length_values_le (q : Params) (s : Sql) (t : List Char) :
    s.values.length + (placeholders t).length ≤
      (placeholders ((render q s).1.toList ++ t)).length := by
  induction s generalizing q with
  | nil => exact Nat.le_of_eq (Nat.zero_add _)
  | cons x s ih =>
    cases x with
    | text u =>
      show _ ≤ (placeholders ((u ++ (render q s).1).toList ++ t)).length
      obtain ⟨more, hm⟩ := exists_placeholders_append u.toList ((render q s).1.toList ++ t)
      rw [String.toList_append, List.append_assoc, hm, List.length_append]
      exact Nat.le_trans (ih q) (Nat.le_add_left _ _)
    | bound v =>
      show (v :: values s).length + _ ≤
        (placeholders ((Params.mark (q.size + 1) ++ (render (q.push v).2 s).1).toList ++ t)).length
      rw [String.toList_append, List.append_assoc, placeholders_mark_append, List.length_cons,
        List.length_cons, Nat.add_right_comm]
      exact Nat.succ_le_succ (ih (q.push v).2)

/-- Where the placeholders in the text are those of the bound values, the text behind `n` more
parameters is the renumbered one. -/
theorem renumber_render {n : Nat} {p q : Params} {s : Sql} {t : List Char}
    (h : placeholders ((render q s).1.toList ++ t) =
      List.range' (q.size + 1) s.values.length ++ placeholders t)
    (hp : p.size = n + q.size) :
    renumber n ((render q s).1.toList ++ t) = (render p s).1.toList ++ renumber n t := by
  induction s generalizing p q with
  | nil => rfl
  | cons x s ih =>
    cases x with
    | text u =>
      change placeholders ((u ++ (render q s).1).toList ++ t) =
        List.range' (q.size + 1) (values s).length ++ placeholders t at h
      show renumber n ((u ++ (render q s).1).toList ++ t) =
        (u ++ (render p s).1).toList ++ renumber n t
      rw [String.toList_append, List.append_assoc] at h ⊢
      obtain ⟨more, hm⟩ := exists_placeholders_append u.toList ((render q s).1.toList ++ t)
      -- All placeholders are needed for the values in `s`, so none starts in `u`.
      have hl := congrArg List.length (hm.symm.trans h)
      have hle := length_values_le q s t
      rw [List.length_append, List.length_append, List.length_range'] at hl
      obtain rfl : more = [] := List.eq_nil_of_length_eq_zero (by omega)
      rw [renumber_append n hm, ih (hm.symm.trans h) hp, String.toList_append, List.append_assoc]
    | bound v =>
      change placeholders ((Params.mark (q.size + 1) ++ (render (q.push v).2 s).1).toList ++ t) =
        List.range' (q.size + 1) ((values s).length + 1) ++ placeholders t at h
      show renumber n ((Params.mark (q.size + 1) ++ (render (q.push v).2 s).1).toList ++ t) =
        (Params.mark (p.size + 1) ++ (render (p.push v).2 s).1).toList ++ renumber n t
      rw [String.toList_append, List.append_assoc] at h ⊢
      rw [placeholders_mark_append, List.range'_succ, List.cons_append] at h
      obtain ⟨hk, hr⟩ := List.cons.inj h
      have hq : (q.push v).2.size = q.size + 1 := Params.size_append q [v]
      have hpv : (p.push v).2.size = n + (q.push v).2.size := by
        have hps : (p.push v).2.size = p.size + 1 := Params.size_append p [v]
        omega
      rw [renumber_mark_append n _ (noDigitAhead_of_ofDigitChars_eq (Nat.succ_pos _) hk),
        ih (by rw [hq]; exact hr) hpv, String.toList_append, List.append_assoc, hp,
        Nat.add_assoc]

/-- Numbered SQL behind parameters has the text that it has behind none, renumbered. -/
theorem Numbered.render_eq_renumbered {s : Sql} (h : Numbered s) (p : Params) :
    (render p s).1 = renumbered p.size (render .empty s).1 := by
  have hr := renumber_render (p := p) (h .empty [] rfl) (Nat.add_zero _).symm
  rw [List.append_nil, renumber, List.append_nil] at hr
  unfold renumbered
  rw [hr, String.ofList_toList]

end Sql

end SqlCompose
