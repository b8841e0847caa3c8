import SqlCompose.Proofs.Lists
import SqlCompose.Text.Words

/-!
# What the case mappings can give

A case mapping keeps a character, or gives letters of ASCII and characters outside it. So a name
that is cut into words and mapped has no ASCII character that is neither a letter nor a digit,
unless it had it before.
-/

namespace SqlCompose.Text

/-- Is the character neither a letter nor a digit, and of ASCII? -/
def IsSign (d : Char) : Prop := d.toNat < 0x80 ∧ d.isAlphanum = false

instance (d : Char) : Decidable (IsSign d) := inferInstanceAs (Decidable (_ ∧ _))

/-- Does the shift give no sign anywhere in its run? -/
def clearShift (s : Run × Int) : Bool :=
  -- It lies outside ASCII, on one side of the surrogates, or is a single letter.
  (0x80 ≤ s.1.first + s.2 && s.1.last + s.2 < 0xd800) ||
  (0xe000 ≤ s.1.first + s.2 && s.1.last + s.2 < 0x110000) ||
  (s.1.first == s.1.last && (Char.ofNat (s.1.first + s.2).toNat).isAlphanum)

theorem all_lowerShifts : lowerShifts.all clearShift = true := by decide +kernel

theorem all_upperShifts : upperShifts.all clearShift = true := by decide +kernel

theorem all_upperExpansions :
    (upperExpansions.all fun e => e.2.all fun d => !decide (IsSign d)) = true := by decide +kernel

/-- What holds of the first code points one by one holds of ASCII. -/
theorem forall_ascii {P : Char → Prop} (h : ∀ n < 0x80, P (Char.ofNat n)) {c : Char}
    (hc : c.toNat < 0x80) : P c := by
  have hp := h c.toNat hc
  rwa [Char.ofNat_toNat] at hp

theorem toLower_eq_or {c : Char} (hc : c.toNat < 0x80) : c.toLower = c ∨ ¬ IsSign c.toLower :=
  forall_ascii (P := fun c => c.toLower = c ∨ ¬ IsSign c.toLower) (by decide +kernel) hc

theorem toUpper_eq_or {c : Char} (hc : c.toNat < 0x80) : c.toUpper = c ∨ ¬ IsSign c.toUpper :=
  forall_ascii (P := fun c => c.toUpper = c ∨ ¬ IsSign c.toUpper) (by decide +kernel) hc

theorem toNat_ofNat {n : Nat} (h : n.isValidChar) : (Char.ofNat n).toNat = n := by
  unfold Char.ofNat
  rw [dif_pos h]
  rfl

theorem not_isSign_ofNat {n : Nat} (h : 0x80 ≤ n) (hv : n.isValidChar) :
    ¬ IsSign (Char.ofNat n) := by
  rintro ⟨hn, -⟩
  rw [toNat_ofNat hv] at hn
  omega

/-- A clear shift keeps signs off its run. -/
theorem not_isSign_of_clearShift {s : Run × Int} (h : clearShift s = true) {n : Nat}
    (hn : s.1.contains n = true) : ¬ IsSign (Char.ofNat (n + s.2).toNat) := by
  simp only [Run.contains, Bool.and_eq_true, decide_eq_true_eq] at hn
  obtain ⟨⟨hf, hl⟩, -⟩ := hn
  simp only [clearShift, Bool.or_eq_true, Bool.and_eq_true, decide_eq_true_eq, beq_iff_eq] at h
  rcases h with (⟨ha, hb⟩ | ⟨ha, hb⟩) | ⟨ha, hb⟩
  · exact not_isSign_ofNat (by omega) (.inl (by omega))
  · exact not_isSign_ofNat (by omega) (.inr ⟨by omega, by omega⟩)
  · obtain rfl : n = s.1.first := by omega
    intro hd
    rw [hd.2] at hb
    cases hb

theorem shifted_eq_or {shifts : List (Run × Int)} (hs : shifts.all clearShift = true) (c : Char) :
    shifted shifts c = c ∨ ¬ IsSign (shifted shifts c) := by
  unfold shifted
  split
  · rename_i s hf
    have hc := List.find?_some hf
    have hm := List.all_eq_true.mp hs s (List.mem_of_find?_eq_some hf)
    exact .inr (not_isSign_of_clearShift hm hc)
  · exact .inl rfl

/-- The lower-case form of a character has no sign but the character itself. -/
theorem eq_of_mem_lower {c d : Char} (h : d ∈ lower c) (hd : IsSign d) : d = c := by
  unfold lower at h
  split at h
  · rename_i hc
    obtain rfl := List.mem_singleton.mp h
    exact (toLower_eq_or hc).resolve_right fun hn => hn hd
  split at h
  · simp only [List.mem_cons, List.not_mem_nil, or_false] at h
    rcases h with rfl | rfl
    · exact absurd hd (by decide)
    · exact absurd hd (by decide)
  · obtain rfl := List.mem_singleton.mp h
    exact (shifted_eq_or all_lowerShifts c).resolve_right fun hn => hn hd

/-- The upper-case form of a character has no sign but the character itself. -/
theorem eq_of_mem_upper {c d : Char} (h : d ∈ upper c) (hd : IsSign d) : d = c := by
  unfold upper at h
  split at h
  · rename_i hc
    obtain rfl := List.mem_singleton.mp h
    exact (toUpper_eq_or hc).resolve_right fun hn => hn hd
  split at h
  · rename_i cs hl
    have he := List.all_eq_true.mp all_upperExpansions _ (mem_of_lookup_eq_some hl)
    have hn := List.all_eq_true.mp he d h
    simp [hd] at hn
  · obtain rfl := List.mem_singleton.mp h
    exact (shifted_eq_or all_upperShifts c).resolve_right fun hn => hn hd

/-! ## Words -/

variable {d : Char} (hd : IsSign d)

include hd

theorem mem_of_mem_lowerWord {w : List Char} (h : d ∈ lowerWord w) : d ∈ w := by
  induction w with
  | nil => exact h
  | cons c w ih =>
    cases w with
    | nil =>
      unfold lowerWord at h
      split at h
      · obtain rfl := List.mem_singleton.mp h
        exact absurd hd (by decide)
      · rw [eq_of_mem_lower h hd]
        exact List.mem_cons_self
    | cons c' w =>
      rcases List.mem_append.mp h with h | h
      · rw [eq_of_mem_lower h hd]
        exact List.mem_cons_self
      · exact List.mem_cons_of_mem c (ih h)

theorem mem_of_mem_upperWord {w : List Char} (h : d ∈ upperWord w) : d ∈ w := by
  obtain ⟨c, hc, h⟩ := List.mem_flatMap.mp h
  rwa [eq_of_mem_upper h hd]

theorem mem_of_mem_capitalWord {w : List Char} (h : d ∈ capitalWord w) : d ∈ w := by
  cases w with
  | nil => exact h
  | cons c w =>
    rcases List.mem_append.mp h with h | h
    · rw [eq_of_mem_upper h hd]
      exact List.mem_cons_self
    · exact List.mem_cons_of_mem c (mem_of_mem_lowerWord hd h)

end SqlCompose.Text
