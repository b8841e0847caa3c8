import SqlCompose.Proofs.Calendar.Date
import SqlCompose.Calendar.Timestamp

/-!
# Instants and their numbers

A time is the one of its clock, unless it has a leap second that is none of a minute
(`TimeOfDay.ofClock?_clock`), an instant is the one of its seconds, and an instant that was found
for a number of microseconds has that number (`Timestamp.micros_of_ofMicros?`).
-/

namespace SqlCompose

namespace TimeOfDay

variable (t : TimeOfDay)

theorem ofParts?_parts : ofParts? t.second t.nano = some t :=
  dif_pos ⟨t.second_lt, t.nano_lt⟩

/-- The time as its text has it. Nanoseconds beyond a second are a leap second at the end of a
minute, and anywhere else they are those of the second that follows. -/
def written : TimeOfDay :=
  if h : secondNanos ≤ t.nano ∧ t.second % 60 ≠ 59 then
    { second := t.second + 1
      nano := t.nano - secondNanos
      second_lt := by
        have hs := t.second_lt
        unfold daySeconds at hs ⊢
        omega
      nano_lt := by
        have hn := t.nano_lt
        omega }
  else t

theorem written_of_lt {t : TimeOfDay} (h : t.nano < secondNanos) : t.written = t :=
  dif_neg fun hn => Nat.not_le.mpr h hn.1

/-- The hour, the minute, the second and the nanosecond in a text are those of the time written. -/
theorem ofClock?_clock : ofClock? (t.second / 3600) (t.second / 60 % 60)
    (t.second % 60 + t.nano / secondNanos) (t.nano % secondNanos) = some t.written := by
  have hs := t.second_lt
  have hn := t.nano_lt
  unfold daySeconds at hs
  unfold ofClock? written
  by_cases hl : t.nano < secondNanos
  · have ht : t.second / 3600 * 3600 + t.second / 60 % 60 * 60 + t.second % 60 = t.second := by
      omega
    rw [Nat.div_eq_of_lt hl, Nat.mod_eq_of_lt hl, Nat.add_zero, if_neg (by omega),
      if_neg (by omega), ht, ofParts?_parts, dif_neg (by omega)]
  · have hd : t.nano / secondNanos = 1 := by
      unfold secondNanos at hl hn ⊢
      omega
    have hm : t.nano % secondNanos = t.nano - secondNanos := by
      unfold secondNanos at hl hn ⊢
      omega
    rw [hd, hm, if_neg (by omega)]
    by_cases h59 : t.second % 60 = 59
    · have ht : t.second / 3600 * 3600 + t.second / 60 % 60 * 60 + 59 = t.second := by omega
      rw [if_pos (by omega), ht, Nat.sub_add_cancel (by omega), ofParts?_parts, dif_neg (by omega)]
    · have ht : t.second / 3600 * 3600 + t.second / 60 % 60 * 60 + (t.second % 60 + 1) =
          t.second + 1 := by omega
      rw [if_neg (by omega), ht, dif_pos ⟨by omega, h59⟩]
      exact dif_pos ⟨by unfold daySeconds; omega, by omega⟩

end TimeOfDay

namespace Timestamp

variable {t : Timestamp}

theorem ofSeconds?_eq_some_iff {seconds : Int} {nano : Nat} :
    ofSeconds? seconds nano = some t ↔ seconds = t.seconds ∧ nano = t.time.nano := by
  obtain ⟨date, time⟩ := t
  have hs := time.second_lt
  unfold ofSeconds? Timestamp.seconds
  unfold daySeconds at hs ⊢
  simp only [Option.bind_eq_bind, Option.bind_eq_some_iff, Option.pure_def, Option.some.injEq,
    Timestamp.mk.injEq]
  constructor
  · rintro ⟨d, hd, u, hu, rfl, rfl⟩
    unfold Date.ofDay? at hd
    unfold TimeOfDay.ofParts? at hu
    split at hd
    · split at hu
      · cases hd
        cases hu
        dsimp only
        omega
      · cases hu
    · cases hd
  · rintro ⟨rfl, rfl⟩
    have hday : (date.day * (86400 : Nat) + time.second) / (86400 : Nat) = date.day := by omega
    have hsec : ((date.day * (86400 : Nat) + time.second) % (86400 : Nat)).toNat = time.second := by
      omega
    refine ⟨date, ?_, time, ?_, rfl, rfl⟩
    · rw [hday, Date.ofDay?_day]
    · rw [hsec, time.ofParts?_parts]

theorem ofSeconds?_seconds (t : Timestamp) : ofSeconds? t.seconds t.time.nano = some t :=
  ofSeconds?_eq_some_iff.mpr ⟨rfl, rfl⟩

/-- The instant as its text has it. -/
def written (t : Timestamp) : Timestamp := ⟨t.date, t.time.written⟩

theorem written_of_lt (h : t.time.nano < secondNanos) : t.written = t := by
  unfold written
  rw [TimeOfDay.written_of_lt h]

/-- The instant that is written is the same number of microseconds. -/
theorem micros_written (t : Timestamp) : t.written.micros = t.micros := by
  unfold micros written TimeOfDay.written Timestamp.seconds
  split
  · rename_i h
    congr 1
    dsimp only
    unfold secondNanos at h ⊢
    omega
  · rfl

variable {m : Int} (h : ofMicros? m = some t)
include h

/-- An instant that was found for microseconds has as many. -/
theorem micros_of_ofMicros? : t.micros = m := by
  obtain ⟨hs, hn⟩ := ofSeconds?_eq_some_iff.mp h
  have hm : (t.seconds - startOf2000) * secondNanos + t.time.nano = m * 1000 := by
    unfold secondNanos
    omega
  unfold micros
  rw [hm]
  exact Int.mul_tdiv_cancel m (by decide)

theorem nano_lt_of_ofMicros? : t.time.nano < secondNanos := by
  obtain ⟨-, hn⟩ := ofSeconds?_eq_some_iff.mp h
  unfold secondNanos
  omega

end Timestamp

end SqlCompose
