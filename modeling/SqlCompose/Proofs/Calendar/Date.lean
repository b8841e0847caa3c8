import Mathlib.Algebra.BigOperators.Group.List.Basic
import Mathlib.Algebra.GroupWithZero.Nat
import SqlCompose.Calendar.Date

/-!
# The date of a day

A day lies in the year that is found for it (`yearOf_spec`) and, as the days of a year are those
of its months, in the month that is found for it (`monthOf_spec`). So a day is the one of its year,
month and day of the month (`Date.ofYmd?_ymd`).
-/

namespace SqlCompose

namespace Calendar

theorem sum_monthLengths (leap : Bool) :
    (monthLengths leap).sum = if leap then 366 else 365 := by
  cases leap <;> rfl

/-- A year has the days of its months. -/
theorem daysBeforeYear_succ (year : Int) :
    daysBeforeYear (year + 1) = daysBeforeYear year + (monthLengths (isLeap year)).sum := by
  rw [sum_monthLengths]
  unfold daysBeforeYear isLeap
  simp only [Bool.and_eq_true, Bool.or_eq_true, beq_iff_eq, bne_iff_ne]
  split <;> omega

/-- The average length of a year leads to the year of a day or to one next to it. -/
theorem yearOf_near (n : Int) : daysBeforeYear (n * 400 / 146097 - 1) ≤ n ∧
    n < daysBeforeYear (n * 400 / 146097 + 2) := by
  unfold daysBeforeYear
  omega

theorem yearOf_spec (n : Int) :
    daysBeforeYear (yearOf n) ≤ n ∧ n < daysBeforeYear (yearOf n + 1) := by
  obtain ⟨hl, hu⟩ := yearOf_near n
  unfold yearOf
  dsimp only
  split
  · rename_i h
    rw [Int.sub_add_cancel]
    exact ⟨hl, h⟩
  · rename_i h
    split
    · rename_i h'
      rw [Int.add_assoc]
      exact ⟨h', hu⟩
    · rename_i h'
      exact ⟨Int.not_lt.mp h, Int.not_le.mp h'⟩

/-- The `n`-th day of months of these lengths lies in one of them, behind those before it. -/
theorem monthOf_spec {n : Nat} {lengths : List Nat} (h : n < lengths.sum) (month : Nat) :
    ∃ k day, monthOf month n lengths = (month + k, day + 1) ∧ k < lengths.length ∧
      day < lengths.getD k 0 ∧ (lengths.take k).sum + day = n := by
  induction lengths generalizing n month with
  | nil => cases h
  | cons l ls ih =>
    rw [List.sum_cons] at h
    unfold monthOf
    split
    · rename_i hn
      exact ⟨0, n, rfl, Nat.succ_pos _, hn, by simp⟩
    · rename_i hn
      obtain ⟨k, day, hm, hk, hd, hs⟩ := ih (n := n - l) (by omega) (month + 1)
      refine ⟨k + 1, day, ?_, Nat.succ_lt_succ hk, hd, ?_⟩
      · rw [hm]
        congr 1
        omega
      · rw [List.take_succ_cons, List.sum_cons]
        omega

theorem monthLengths_le (leap : Bool) : ∀ k < 12, (monthLengths leap).getD k 0 ≤ 31 := by
  cases leap <;> decide

end Calendar

open Calendar

namespace Date

variable (d : Date)

theorem daysBeforeYear_le : daysBeforeYear d.year ≤ d.ordinal := (yearOf_spec d.ordinal).1

/-- The days of the year before a day are fewer than those of its months. -/
theorem dayOfYear_lt :
    (d.ordinal - daysBeforeYear d.year).toNat < (monthLengths (isLeap d.year)).sum := by
  have hl := d.daysBeforeYear_le
  have hu : d.ordinal < daysBeforeYear (d.year + 1) := (yearOf_spec d.ordinal).2
  rw [daysBeforeYear_succ] at hu
  omega

/-- The month and the day of the month, both counted from zero. -/
theorem exists_month : ∃ k day, d.month = k + 1 ∧ d.dayOfMonth = day + 1 ∧ k < 12 ∧
    day < (monthLengths (isLeap d.year)).getD k 0 ∧
      ((monthLengths (isLeap d.year)).take k).sum + day =
        (d.ordinal - daysBeforeYear d.year).toNat := by
  obtain ⟨k, day, hm, hk, hd, hs⟩ := monthOf_spec d.dayOfYear_lt 1
  refine ⟨k, day, ?_, ?_, hk, hd, hs⟩
  · unfold month monthDay
    rw [hm, Nat.add_comm]
  · unfold dayOfMonth monthDay
    rw [hm]

theorem month_lt : d.month < 100 := by
  obtain ⟨k, -, hm, -, hk, -⟩ := d.exists_month
  omega

theorem dayOfMonth_lt : d.dayOfMonth < 100 := by
  obtain ⟨k, day, -, hm, hk, hd, -⟩ := d.exists_month
  have := monthLengths_le (isLeap d.year) k hk
  omega

theorem ofDay?_day : ofDay? d.day = some d := dif_pos d.inRange

/-- A day is the one of its year, month and day of the month. -/
theorem ofYmd?_ymd : ofYmd? d.year d.month d.dayOfMonth = some d := by
  obtain ⟨k, day, hm, hd, hk, hday, hs⟩ := d.exists_month
  have hn : daysBeforeYear d.year - epoch + daysBeforeMonth (isLeap d.year) (k + 1) + (day : Int) =
      d.day := by
    have hl := d.daysBeforeYear_le
    unfold daysBeforeMonth
    rw [Nat.add_sub_cancel, ← List.sum_eq_foldl]
    have ho : d.ordinal = d.day + epoch := rfl
    omega
  unfold ofYmd?
  dsimp only
  rw [hm, hd, Nat.add_sub_cancel, Nat.add_sub_cancel, if_pos ⟨by omega, by omega, by omega, by omega⟩,
    hn, ofDay?_day]

end Date

end SqlCompose
