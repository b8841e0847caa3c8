import SqlCompose.Proofs.Page
import SqlCompose.Proofs.Text.Blank

/-!
# Totals as numbers and as texts

The number of all rows may arrive as a number or as a text, and both are read the same
(`Page.readTotal_integers`): what a text counts is the integer that it spells between blanks
(`Page.counts_string_iff`), and the decimal text of an integer spells this integer.
-/

namespace SqlCompose

open Text

theorem Spells.ne_nil {s : List Char} {n : Int} (h : Spells s n) : s ≠ [] := by
  obtain ⟨c, ds, rfl, -⟩ := h.exists_cons
  exact List.cons_ne_nil c ds

/-- No blank is in a text that spells an integer. -/
theorem Spells.not_blank {s : List Char} {n : Int} (h : Spells s n) :
    ∀ c ∈ s, isBlank c = false := by
  have hd {ds : List Char} (h : IsNumeral ds) : ∀ c ∈ ds, isBlank c = false :=
    fun c hc => isBlank_of_isDigit (h.2 c hc)
  cases h with
  | unsigned h => exact hd h
  | plus h => exact List.forall_mem_cons.mpr ⟨by decide, hd h⟩
  | minus h => exact List.forall_mem_cons.mpr ⟨by decide, hd h⟩

/-- What is left of a text spells an integer just if the text has it spelled between blanks. -/
theorem spells_trim_iff {s : List Char} {n : Int} :
    Spells (trim s) n ↔ ∃ t, BetweenBlanks t s ∧ Spells t n := by
  constructor
  · intro h
    exact ⟨trim s, betweenBlanks_trim s, h⟩
  · rintro ⟨t, hs, h⟩
    rwa [hs.trim_eq h.ne_nil h.not_blank]

namespace Page

theorem counts_number_iff {n m : Int} {h : -0x8000000000000000 ≤ n ∧ n < 0x10000000000000000} :
    Counts (.number (.integer n h)) m ↔ m = n ∧ n < 0x8000000000000000 := by
  constructor
  · intro hc
    cases hc with
    | number _ hn => exact ⟨rfl, (contains_signed64_iff.mp hn).2⟩
  · rintro ⟨rfl, hn⟩
    exact .number h (contains_signed64_iff.mpr ⟨h.1, hn⟩)

theorem counts_string_iff {s : String} {n : Int} :
    Counts (.string s) n ↔ (∃ t, BetweenBlanks t s.toList ∧ Spells t n) ∧
      -0x8000000000000000 ≤ n ∧ n < 0x8000000000000000 := by
  rw [← spells_trim_iff, ← contains_signed64_iff]
  constructor
  · intro hc
    cases hc with
    | text hs hn => exact ⟨hs, hn⟩
  · rintro ⟨hs, hn⟩
    exact .text hs hn

/-- The decimal text of an integer counts what the integer counts. -/
theorem counts_decimal_iff {n m : Int} (h : -0x8000000000000000 ≤ n ∧ n < 0x10000000000000000)
    {s : String} (hs : BetweenBlanks (decimalDigits n) s.toList) :
    Counts (.string s) m ↔ Counts (.number (.integer n h)) m := by
  have hn := spells_decimalDigits n
  rw [counts_string_iff, counts_number_iff]
  constructor
  · rintro ⟨ht, -, hm⟩
    have ht := spells_trim_iff.mpr ht
    rw [hs.trim_eq hn.ne_nil hn.not_blank] at ht
    obtain rfl := ht.unique hn
    exact ⟨rfl, hm⟩
  · rintro ⟨rfl, hm⟩
    exact ⟨⟨_, hs, hn⟩, h.1, hm⟩

theorem readTotal_eq_ok_iff {column : String} {value : Json} {n : Int} :
    readTotal column value = .ok n ↔ Counts value n := by
  refine ⟨fun h => ?_, readTotal_of_counts⟩
  rcases readTotal_cases column value with ⟨m, hm, hr⟩ | ⟨-, message, hr⟩
  · rw [hr] at h
    cases h
    exact hm
  · rw [hr] at h
    cases h

/-- Totals read the same as number and as text. An integer of 64 bits, with sign or without, is read
as itself if it is in the range of those with sign, both from the number and from its decimal text
between any blanks; if it is not, the column is at fault with both. A text is read as no integer but
the one that it spells, between blanks and in the range; if it spells none, the column is at fault. -/
theorem readTotal_integers (column : String) :
    (∀ (n : Int) (h : -0x8000000000000000 ≤ n ∧ n < 0x10000000000000000) (s : String),
      BetweenBlanks (decimalDigits n) s.toList →
      if n < 0x8000000000000000 then
        readTotal column (.number (.integer n h)) = .ok n ∧ readTotal column (.string s) = .ok n
      else
        (∃ message, readTotal column (.number (.integer n h)) = .error (.decode column message)) ∧
          ∃ message, readTotal column (.string s) = .error (.decode column message)) ∧
    ∀ s : String,
      (∀ n, readTotal column (.string s) = .ok n ↔
        (∃ t, BetweenBlanks t s.toList ∧ Spells t n) ∧
          -0x8000000000000000 ≤ n ∧ n < 0x8000000000000000) ∧
      ((∀ n, readTotal column (.string s) ≠ .ok n) →
        ∃ message, readTotal column (.string s) = .error (.decode column message)) := by
  refine ⟨fun n h s hs => ?_, fun s => ⟨fun n => ?_, fun hn => ?_⟩⟩
  · split
    · rename_i hn
      have hc : Counts (.number (.integer n h)) n := counts_number_iff.mpr ⟨rfl, hn⟩
      exact ⟨readTotal_of_counts hc, readTotal_of_counts ((counts_decimal_iff h hs).mpr hc)⟩
    · rename_i hn
      have hc (m : Int) : ¬ Counts (.number (.integer n h)) m :=
        fun hc => hn (counts_number_iff.mp hc).2
      exact ⟨readTotal_of_not_counts column hc,
        readTotal_of_not_counts column fun m hm => hc m ((counts_decimal_iff h hs).mp hm)⟩
  · rw [readTotal_eq_ok_iff, counts_string_iff]
  · exact readTotal_of_not_counts column fun n hc => hn n (readTotal_of_counts hc)

/-- The least integer of 64 bits with sign, and the first one beyond the greatest. -/
theorem readTotal_integers_limits :
    BetweenBlanks (decimalDigits (-0x8000000000000000)) "\u00a0-9223372036854775808\n".toList ∧
      BetweenBlanks (decimalDigits 0x8000000000000000) "9223372036854775808 ".toList ∧
      readTotal "total" (.number (.integer (-0x8000000000000000) (by decide))) =
        .ok (-0x8000000000000000) ∧
      readTotal "total" (.string "\u00a0-9223372036854775808\n") = .ok (-0x8000000000000000) ∧
      (∃ message, readTotal "total" (.number (.integer 0x8000000000000000 (by decide))) =
        .error (.decode "total" message)) ∧
      (∃ message, readTotal "total" (.string "9223372036854775808 ") =
        .error (.decode "total" message)) ∧
      readTotal "total" (.string "+07\t") = .ok 7 ∧
      ∃ message, readTotal "total" (.string "7e0") = .error (.decode "total" message) := by
  have hl : BetweenBlanks (decimalDigits (-0x8000000000000000))
      "\u00a0-9223372036854775808\n".toList :=
    ⟨['\u00a0'], ['\n'], by decide +kernel, List.forall_mem_singleton.mpr (by decide),
      List.forall_mem_singleton.mpr (by decide)⟩
  have hg : BetweenBlanks (decimalDigits 0x8000000000000000) "9223372036854775808 ".toList :=
    ⟨[], [' '], by decide +kernel, nofun, List.forall_mem_singleton.mpr (by decide)⟩
  have h := readTotal_integers "total"
  obtain ⟨hn, ht⟩ := h.1 (-0x8000000000000000) (by decide) _ hl
  obtain ⟨hn', ht'⟩ := h.1 0x8000000000000000 (by decide) _ hg
  refine ⟨hl, hg, hn, ht, hn', ht', ((h.2 _).1 7).mpr ⟨⟨['+', '0', '7'], ?_, ?_⟩, by decide⟩, ?_⟩
  · exact ⟨[], ['\t'], rfl, nofun, List.forall_mem_singleton.mpr (by decide)⟩
  · exact .plus ⟨List.cons_ne_nil _ _, List.all_eq_true.mp (by decide)⟩
  · exact (h.2 _).2 fun n hc => by cases hc

end Page

end SqlCompose
