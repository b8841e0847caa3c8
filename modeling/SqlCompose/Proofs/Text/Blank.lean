import Mathlib.Data.List.DropRight
import SqlCompose.Text.Blank

/-!
# Blanks around a text

A text is trimmed of the blanks around it and of nothing else: what is left stands between blanks
(`betweenBlanks_trim`), and a text without blanks is left of all that have it between blanks
(`BetweenBlanks.trim_eq`).
-/

namespace SqlCompose.Text

/-- Is `s` the text `t` with blanks in front of it and behind it, as many as there may be? -/
def BetweenBlanks (t s : List Char) : Prop :=
  ∃ front behind, s = front ++ t ++ behind ∧ (∀ c ∈ front, isBlank c = true) ∧
    ∀ c ∈ behind, isBlank c = true

theorem isBlank_of_isDigit {c : Char} (h : c.isDigit = true) : isBlank c = false := by
  simp only [Char.isDigit, Bool.and_eq_true, decide_eq_true_eq] at h
  have hl : 48 ≤ c.toNat := h.1
  have hu : c.toNat ≤ 57 := h.2
  simp only [isBlank, inRanges, blankRanges, List.any_cons, List.any_nil, Bool.or_false,
    Bool.or_eq_false_iff, Bool.and_eq_false_iff, decide_eq_false_iff_not]
  omega

theorem trimStart_cons {c : Char} (h : isBlank c = false) (s : List Char) :
    trimStart (c :: s) = c :: s := by
  unfold trimStart
  rw [List.dropWhile_cons_of_neg (by simp [h])]

theorem trimEnd_eq_rdropWhile (s : List Char) : trimEnd s = s.rdropWhile isBlank := rfl

theorem betweenBlanks_trim (s : List Char) : BetweenBlanks (trim s) s := by
  refine ⟨s.takeWhile isBlank, (trimStart s).rtakeWhile isBlank, ?_,
    fun _ hc => List.mem_takeWhile_imp hc, fun _ hc => List.mem_rtakeWhile_imp hc⟩
  calc s = s.takeWhile isBlank ++ trimStart s := List.takeWhile_append_dropWhile.symm
    _ = s.takeWhile isBlank ++ (trim s ++ (trimStart s).rtakeWhile isBlank) :=
        congrArg _ List.rdropWhile_append_rtakeWhile.symm
    _ = s.takeWhile isBlank ++ trim s ++ (trimStart s).rtakeWhile isBlank :=
        (List.append_assoc _ _ _).symm

theorem trimEnd_append {behind : List Char} (h : ∀ c ∈ behind, isBlank c = true) (s : List Char) :
    trimEnd (s ++ behind) = trimEnd s := by
  unfold trimEnd
  rw [List.reverse_append, List.dropWhile_append_of_pos fun c hc => h c (List.mem_reverse.mp hc)]

theorem trimEnd_of_not_blank {s : List Char} (h : ∀ c ∈ s, isBlank c = false) : trimEnd s = s := by
  rw [trimEnd_eq_rdropWhile, List.rdropWhile_eq_self_iff]
  intro hn
  rw [h _ (List.getLast_mem hn)]
  exact Bool.false_ne_true

theorem BetweenBlanks.trim_eq {t s : List Char} (h : BetweenBlanks t s) (hn : t ≠ [])
    (ht : ∀ c ∈ t, isBlank c = false) : trim s = t := by
  obtain ⟨front, behind, rfl, hf, hb⟩ := h
  obtain ⟨c, r, rfl⟩ := List.exists_cons_of_ne_nil hn
  have hs : trimStart (front ++ (c :: r) ++ behind) = c :: r ++ behind := by
    rw [List.append_assoc]
    exact (List.dropWhile_append_of_pos hf).trans
      (trimStart_cons (ht c List.mem_cons_self) (r ++ behind))
  unfold trim
  rw [hs, trimEnd_append hb, trimEnd_of_not_blank ht]

end SqlCompose.Text
