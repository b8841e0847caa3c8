import SqlCompose.Proofs.Text.Letters

/-!
# Small letters and capitals

A small letter is no capital and is its own lower-case form (`isSmall_of_isLowercase`). What a
character becomes in upper case is its own upper-case form (`upper_of_mem_upper`), so a text in
capitals stays as it is.
-/

namespace SqlCompose.Text

/-! ## Runs apart from each other -/

/-- Do the runs meet no code point in common? -/
def Run.apart (r s : Run) : Bool :=
  -- Nearly all runs lie one behind the other. Those of paired letters go in turn.
  Nat.blt r.last s.first || Nat.blt s.last r.first || r.members.all fun n => !s.contains n

theorem Run.not_contains_of_apart {r s : Run} (h : r.apart s = true) {n : Nat}
    (hn : r.contains n = true) : s.contains n = false := by
  have hm := mem_members hn
  simp only [contains, Bool.and_eq_true, decide_eq_true_eq] at hn
  simp only [apart, Bool.or_eq_true, Nat.blt_eq] at h
  rcases h with (h | h) | h
  · have hs : ¬ n ≥ s.first := by omega
    simp [contains, hs]
  · have hs : ¬ n ≤ s.last := by omega
    simp [contains, hs]
  · simpa using List.all_eq_true.mp h n hm

theorem shifted_of_apart {shifts : List (Run × Int)} {r : Run}
    (h : (shifts.all fun s => r.apart s.1) = true) {c : Char} (hc : r.contains c.toNat = true) :
    shifted shifts c = c := by
  have hn : shifts.find? (fun s => s.1.contains c.toNat) = none :=
    List.find?_eq_none.mpr fun s hs => by
      simp [Run.not_contains_of_apart (List.all_eq_true.mp h s hs) hc]
  unfold shifted
  rw [hn]

/-! ## Small letters -/

/-- Is it a letter or a digit that is no capital, and its own lower-case form? -/
def IsSmall (c : Char) : Prop := isAlphanumeric c = true ∧ isUppercase c = false ∧ lower c = [c]

instance (c : Char) : Decidable (IsSmall c) := inferInstanceAs (Decidable (_ ∧ _ ∧ _))

theorem all_lowercaseRuns : (lowercaseRuns.all fun r =>
    lettersCover r.first r.last || r.members.all fun n => isAlphanumeric (Char.ofNat n)) = true := by
  decide +kernel

theorem all_lowercaseRuns_apart : (lowercaseRuns.all fun r =>
    uppercaseRuns.all (r.apart ·) && lowerShifts.all fun s => r.apart s.1) = true := by
  decide +kernel

theorem lt_of_isLower_or_isDigit {c : Char} (h : c.isLower = true ∨ c.isDigit = true) :
    c.toNat < 0x80 := by
  rcases h with h | h
  · have hz := (Bool.and_eq_true_iff.mp h).2
    exact Nat.lt_of_le_of_lt (UInt32.le_iff_toNat_le.mp (of_decide_eq_true hz)) (by decide)
  · exact Nat.lt_of_le_of_lt (Char.isDigit_iff_toNat.mp h).2 (by decide)

theorem isSmall_of_isLower_or_isDigit {c : Char} (h : c.isLower = true ∨ c.isDigit = true) :
    IsSmall c :=
  forall_ascii (P := fun c => c.isLower = true ∨ c.isDigit = true → IsSmall c)
    (by decide +kernel) (lt_of_isLower_or_isDigit h) h

theorem isSmall_of_isLowercase {c : Char} (h : isLowercase c = true) : IsSmall c := by
  by_cases ha : c.toNat < 0x80
  · rw [isLowercase_of_ascii ha] at h
    exact isSmall_of_isLower_or_isDigit (.inl h)
  · unfold isLowercase at h
    rw [if_neg ha] at h
    obtain ⟨r, hr, hc⟩ := List.any_eq_true.mp h
    have hbounds := hc
    simp only [Run.contains, Bool.and_eq_true, decide_eq_true_eq] at hbounds
    obtain ⟨hup, hlow⟩ := Bool.and_eq_true_iff.mp (List.all_eq_true.mp all_lowercaseRuns_apart r hr)
    have hu : isUppercase c = false := by
      unfold isUppercase
      rw [if_neg ha]
      refine List.any_eq_false.mpr fun s hs => ?_
      simp [Run.not_contains_of_apart (List.all_eq_true.mp hup s hs) hc]
    refine ⟨?_, hu, ?_⟩
    · rw [← Char.ofNat_toNat c]
      rcases Bool.or_eq_true_iff.mp (List.all_eq_true.mp all_lowercaseRuns r hr) with hm | hm
      · exact isAlphanumeric_of_lettersCover hm (by omega) (by omega)
      · exact List.all_eq_true.mp hm c.toNat (Run.mem_members hc)
    · have hi : c ≠ 'İ' := by
        rintro rfl
        exact absurd hu (by decide +kernel)
      unfold lower
      rw [if_neg ha, if_neg hi, shifted_of_apart hlow hc]

/-! ## Capitals -/

/-- The run that a shift leads to. -/
def image (s : Run × Int) : Run := ⟨(s.1.first + s.2).toNat, (s.1.last + s.2).toNat, s.1.step⟩

/-- Does the shift lead to characters that are their own upper-case form? -/
def settledShift (s : Run × Int) : Bool :=
  -- The run that it leads to has no other shift. The few shifts to ASCII lead to one letter each.
  (0x80 ≤ s.1.first + s.2 &&
      (s.1.last + s.2 < 0xd800 || 0xe000 ≤ s.1.first + s.2 && s.1.last + s.2 < 0x110000) &&
      upperShifts.all (fun t => (image s).apart t.1) &&
      upperExpansions.all fun e => !(image s).contains e.1.toNat) ||
    s.1.members.all fun n =>
      upper (Char.ofNat (n + s.2).toNat) == [Char.ofNat (n + s.2).toNat]

theorem all_upperShifts_settled : upperShifts.all settledShift = true := by decide +kernel

theorem all_upperExpansions_settled :
    (upperExpansions.all fun e => e.2.all fun d => upper d == [d]) = true := by decide +kernel

theorem contains_image {s : Run × Int} (h : 0 ≤ s.1.first + s.2) {n : Nat}
    (hn : s.1.contains n = true) : (image s).contains (n + s.2).toNat = true := by
  obtain ⟨⟨first, last, step⟩, shift⟩ := s
  simp only [Run.contains, Bool.and_eq_true, decide_eq_true_eq, beq_iff_eq] at h hn
  obtain ⟨⟨hf, hl⟩, hs⟩ := hn
  have hd : (n + shift).toNat - (first + shift).toNat = n - first := by omega
  have hi : (first + shift).toNat ≤ (n + shift).toNat := by omega
  have hj : (n + shift).toNat ≤ (last + shift).toNat := by omega
  simp [Run.contains, image, hi, hj, hd, hs]

theorem upper_of_settledShift {s : Run × Int} (h : settledShift s = true) {n : Nat}
    (hn : s.1.contains n = true) :
    upper (Char.ofNat (n + s.2).toNat) = [Char.ofNat (n + s.2).toNat] := by
  rcases Bool.or_eq_true_iff.mp h with h | h
  · simp only [Bool.and_eq_true, Bool.or_eq_true, decide_eq_true_eq] at h
    obtain ⟨⟨⟨hf, hv⟩, hs⟩, he⟩ := h
    have hi := contains_image (by omega) hn
    simp only [Run.contains, Bool.and_eq_true, decide_eq_true_eq] at hn
    have hc : (Char.ofNat (n + s.2).toNat).toNat = (n + s.2).toNat := by
      refine toNat_ofNat ?_
      rcases hv with hv | ⟨ha, hb⟩
      · exact .inl (by omega)
      · exact .inr ⟨by omega, by omega⟩
    have hl : upperExpansions.lookup (Char.ofNat (n + s.2).toNat) = none := by
      refine List.lookup_eq_none_iff.mpr fun e hm => ?_
      have hne := List.all_eq_true.mp he e hm
      refine bne_iff_ne.mpr fun hd => ?_
      rw [← hd, hc, hi] at hne
      cases hne
    unfold upper
    rw [if_neg (by omega), hl, shifted_of_apart hs (hc.symm ▸ hi)]
  · exact eq_of_beq (List.all_eq_true.mp h n (Run.mem_members hn))

/-- What stands in upper case stays as it is. -/
theorem upper_of_mem_upper {c d : Char} (h : d ∈ upper c) : upper d = [d] := by
  unfold upper at h
  split at h
  · rename_i ha
    obtain rfl := List.mem_singleton.mp h
    exact forall_ascii (P := fun c => upper c.toUpper = [c.toUpper]) (by decide +kernel) ha
  · rename_i ha
    split at h
    · rename_i cs hl
      have he := List.all_eq_true.mp all_upperExpansions_settled _ (mem_of_lookup_eq_some hl)
      exact eq_of_beq (List.all_eq_true.mp he d h)
    · rename_i hl
      obtain rfl := List.mem_singleton.mp h
      unfold shifted
      split
      · rename_i s hf
        have hc := List.find?_some hf
        have hs := List.all_eq_true.mp all_upperShifts_settled s (List.mem_of_find?_eq_some hf)
        exact upper_of_settledShift hs hc
      · rename_i hf
        unfold upper shifted
        rw [if_neg ha, hl, hf]

end SqlCompose.Text
