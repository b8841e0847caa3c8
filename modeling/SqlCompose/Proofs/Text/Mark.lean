import SqlCompose.Text.Mark

/-!
# Keys and their parts

A key is its parts with the marks between them: the mark in front (`afterMark?_eq_some_iff`) and the
double colon of a cast, where a key is cut if the column has none (`splitAtDouble_append`).
-/

namespace SqlCompose.Text

theorem eq_cons_of_afterMark? {mark : Char} {key s : String} (h : afterMark? mark key = some s) :
    key.toList = mark :: s.toList := by
  unfold afterMark? at h
  split at h
  · cases h
  · rename_i c rest hk
    split at h
    · rename_i hc
      cases h
      rw [hk, hc, String.toList_ofList]
    · cases h

theorem afterMark?_eq_some_iff {mark : Char} {key s : String} :
    afterMark? mark key = some s ↔ key.toList = mark :: s.toList := by
  refine ⟨eq_cons_of_afterMark?, fun h => ?_⟩
  simp [afterMark?, h]

theorem afterMark?_eq_none_iff {mark : Char} {key : String} :
    afterMark? mark key = none ↔ key.toList.head? ≠ some mark := by
  unfold afterMark?
  cases key.toList <;> simp

/-! ## Cutting at a cast -/

theorem eq_append_of_splitAtDouble {c : Char} {s before behind : List Char}
    (h : splitAtDouble c s = some (before, behind)) : s = before ++ c :: c :: behind := by
  induction s generalizing before behind with
  | nil => cases h
  | cons a s ih =>
    cases s with
    | nil => cases h
    | cons b s =>
      unfold splitAtDouble at h
      split at h
      · rename_i hc
        cases h
        rw [hc.1, hc.2]
        rfl
      · obtain ⟨⟨before', behind'⟩, hs, he⟩ := Option.map_eq_some_iff.mp h
        cases he
        rw [ih hs]
        rfl

theorem splitAtDouble_append {c : Char} {s : List Char} (hs : c ∉ s) (t : List Char) :
    splitAtDouble c (s ++ c :: c :: t) = some (s, t) := by
  induction s with
  | nil => simp [splitAtDouble]
  | cons a s ih =>
    obtain ⟨ha, hs⟩ := not_or.mp (mt List.mem_cons.mpr hs)
    have hi := ih hs
    cases s with
    | nil =>
      rw [List.nil_append] at hi
      simp [splitAtDouble, Ne.symm ha]
    | cons b s =>
      rw [List.cons_append] at hi
      rw [List.cons_append, List.cons_append, splitAtDouble, if_neg fun h => ha h.1.symm, hi]
      rfl

theorem splitAtDouble_of_not_mem {c : Char} {s : List Char} (hs : c ∉ s) :
    splitAtDouble c s = none := by
  cases hc : splitAtDouble c s with
  | none => rfl
  | some parts => exact absurd (by simp [eq_append_of_splitAtDouble hc]) hs

end SqlCompose.Text
