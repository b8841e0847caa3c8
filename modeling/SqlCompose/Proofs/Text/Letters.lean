import SqlCompose.Proofs.Text.LetterCase

/-!
# Letters stay letters

The case mappings lead from letters and digits to letters and digits, but for the few letters that
keep an accent as a mark of its own: the dotted capital I in lower case (`forall_mem_lower_iff`) and
`markedLetters` in upper case (`forall_mem_upper_iff`).
-/

namespace SqlCompose.Text

/-! ## Runs of letters -/

/-- Is there a range with all code points from `first` to `last`? -/
def rangeCovers (ranges : List (Nat × Nat)) (first last : Nat) : Bool :=
  ranges.any fun r => Nat.ble r.1 first && Nat.ble last r.2

/-- Do the code points from `first` to `last` lie in one range of letters outside ASCII? -/
def lettersCover (first last : Nat) : Bool :=
  (decide (last < 0xd800) || decide (0xe000 ≤ first) && decide (last < 0x110000)) &&
    (decide (0x80 ≤ first) && decide (last < 0x3000) && rangeCovers alphanumericLow first last ||
      decide (0x3000 ≤ first) && decide (last < 0x11000) &&
        rangeCovers alphanumericMiddle first last ||
      decide (0x11000 ≤ first) && rangeCovers alphanumericHigh first last)

/-- The code points of a run. -/
def Run.members (r : Run) : List Nat :=
  List.range' r.first ((r.last - r.first) / r.step + 1) r.step

/-- Does the shift lead to letters everywhere in its run? -/
def letteredShift (s : Run × Int) : Bool :=
  -- Nearly all runs end up in one range of letters. The others are short.
  lettersCover (s.1.first + s.2).toNat (s.1.last + s.2).toNat ||
    s.1.members.all fun n => isAlphanumeric (Char.ofNat (n + s.2).toNat)

theorem all_letteredShift_lower : lowerShifts.all letteredShift = true := by decide +kernel

theorem all_letteredShift_upper : upperShifts.all letteredShift = true := by decide +kernel

theorem inRanges_of_rangeCovers {ranges : List (Nat × Nat)} {first last n : Nat}
    (h : rangeCovers ranges first last = true) (hf : first ≤ n) (hl : n ≤ last) :
    inRanges ranges n = true := by
  obtain ⟨r, hr, h⟩ := List.any_eq_true.mp h
  simp only [Bool.and_eq_true, Nat.ble_eq] at h
  refine List.any_eq_true.mpr ⟨r, hr, ?_⟩
  simp only [Bool.and_eq_true, decide_eq_true_eq]
  exact ⟨Nat.le_trans h.1 hf, Nat.le_trans hl h.2⟩

theorem isAlphanumeric_of_lettersCover {first last n : Nat} (h : lettersCover first last = true)
    (hf : first ≤ n) (hl : n ≤ last) : isAlphanumeric (Char.ofNat n) = true := by
  simp only [lettersCover, Bool.and_eq_true, Bool.or_eq_true, decide_eq_true_eq] at h
  obtain ⟨hv, h⟩ := h
  have hn : (Char.ofNat n).toNat = n := by
    refine toNat_ofNat ?_
    rcases hv with hv | ⟨ha, hb⟩
    · exact .inl (by omega)
    · exact .inr ⟨by omega, by omega⟩
  unfold isAlphanumeric
  rw [hn]
  rcases h with (⟨⟨ha, hb⟩, h⟩ | ⟨⟨ha, hb⟩, h⟩) | ⟨ha, h⟩
  · rw [if_neg (by omega), if_pos (by omega)]
    exact inRanges_of_rangeCovers h hf hl
  · rw [if_neg (by omega), if_neg (by omega), if_pos (by omega)]
    exact inRanges_of_rangeCovers h hf hl
  · rw [if_neg (by omega), if_neg (by omega), if_neg (by omega)]
    exact inRanges_of_rangeCovers h hf hl

theorem Run.mem_members {r : Run} {n : Nat} (h : r.contains n = true) : n ∈ r.members := by
  simp only [contains, Bool.and_eq_true, decide_eq_true_eq, beq_iff_eq] at h
  obtain ⟨⟨hf, hl⟩, hs⟩ := h
  refine List.mem_range'.mpr ⟨(n - r.first) / r.step, ?_, ?_⟩
  · exact Nat.lt_succ_of_le (Nat.div_le_div_right (Nat.sub_le_sub_right hl r.first))
  · rw [Nat.mul_div_cancel' (Nat.dvd_of_mod_eq_zero hs)]
    omega

theorem isAlphanumeric_shifted {shifts : List (Run × Int)}
    (hs : shifts.all letteredShift = true) {c : Char} (hc : isAlphanumeric c = true) :
    isAlphanumeric (shifted shifts c) = true := by
  unfold shifted
  split
  · rename_i s hf
    have hr := List.find?_some hf
    have hm := List.all_eq_true.mp hs s (List.mem_of_find?_eq_some hf)
    rcases Bool.or_eq_true_iff.mp hm with hm | hm
    · simp only [Run.contains, Bool.and_eq_true, decide_eq_true_eq] at hr
      exact isAlphanumeric_of_lettersCover hm (by omega) (by omega)
    · exact List.all_eq_true.mp hm c.toNat (Run.mem_members hr)
  · exact hc

/-! ## Lower case -/

theorem isAlphanumeric_toLower {c : Char} (hc : c.toNat < 0x80) :
    isAlphanumeric c.toLower = isAlphanumeric c :=
  forall_ascii (P := fun c => isAlphanumeric c.toLower = isAlphanumeric c) (by decide +kernel) hc

theorem lower_ne_nil (c : Char) : lower c ≠ [] := by
  unfold lower
  split
  · simp
  split
  · simp
  · simp

/-- The lower-case form of a letter has only letters, unless it is the dotted capital I. -/
theorem forall_mem_lower_iff {c : Char} (hc : isAlphanumeric c = true) :
    (∀ d ∈ lower c, isAlphanumeric d = true) ↔ c ≠ 'İ' := by
  unfold lower
  split
  · rename_i ha
    rw [List.forall_mem_singleton, isAlphanumeric_toLower ha]
    refine iff_of_true hc ?_
    rintro rfl
    exact absurd ha (by decide)
  split
  · rename_i he
    refine iff_of_false (fun h => ?_) (not_not_intro he)
    exact absurd (h '\u0307' (by simp)) (by decide +kernel)
  · rename_i he
    rw [List.forall_mem_singleton]
    exact iff_of_true (isAlphanumeric_shifted all_letteredShift_lower hc) he

/-! ## Upper case -/

/-- The letters with an accent that no capital has: in upper case the accent follows the capital as
a mark of its own. -/
def markedLetters : List Char :=
  -- The escapes are `ΐ` and `ΰ` as they stand among the letters of ancient Greek.
  ['ǰ', 'ΐ', 'ΰ', 'ẖ', 'ẗ', 'ẘ', 'ẙ', 'ὐ', 'ὒ', 'ὔ', 'ὖ', 'ᾶ', 'ᾷ', 'ῆ', 'ῇ', 'ῒ', '\u1fd3', 'ῖ',
    'ῗ', 'ῢ', '\u1fe3', 'ῤ', 'ῦ', 'ῧ', 'ῶ', 'ῷ']

theorem all_markedLetters : (markedLetters.all fun c =>
    decide (0x80 ≤ c.toNat) && (upperExpansions.lookup c).isSome) = true := by decide +kernel

theorem all_upperExpansions_letters : (upperExpansions.all fun e =>
    e.2.all isAlphanumeric == !markedLetters.contains e.1) = true := by decide +kernel

theorem isAlphanumeric_toUpper {c : Char} (hc : c.toNat < 0x80) :
    isAlphanumeric c.toUpper = isAlphanumeric c :=
  forall_ascii (P := fun c => isAlphanumeric c.toUpper = isAlphanumeric c) (by decide +kernel) hc

theorem all_upperExpansions_ne_nil :
    (upperExpansions.all fun e => !e.2.isEmpty) = true := by decide +kernel

theorem upper_ne_nil (c : Char) : upper c ≠ [] := by
  unfold upper
  split
  · simp
  split
  · rename_i cs hl
    have he := List.all_eq_true.mp all_upperExpansions_ne_nil _ (mem_of_lookup_eq_some hl)
    simpa using he
  · simp

/-- The upper-case form of a letter has only letters, unless its accent becomes a mark. -/
theorem forall_mem_upper_iff {c : Char} (hc : isAlphanumeric c = true) :
    (∀ d ∈ upper c, isAlphanumeric d = true) ↔ c ∉ markedLetters := by
  have hm : c ∈ markedLetters → 0x80 ≤ c.toNat ∧ (upperExpansions.lookup c).isSome = true := by
    intro h
    simpa using List.all_eq_true.mp all_markedLetters c h
  unfold upper
  split
  · rename_i ha
    rw [List.forall_mem_singleton, isAlphanumeric_toUpper ha]
    exact iff_of_true hc fun h => by have := (hm h).1; omega
  split
  · rename_i cs hl
    have he := List.all_eq_true.mp all_upperExpansions_letters _ (mem_of_lookup_eq_some hl)
    rw [← List.all_eq_true, eq_of_beq he]
    simp
  · rename_i hl
    rw [List.forall_mem_singleton]
    refine iff_of_true (isAlphanumeric_shifted all_letteredShift_upper hc) fun h => ?_
    have hs := (hm h).2
    rw [hl] at hs
    cases hs

end SqlCompose.Text
