import Mathlib.Data.Nat.Digits.Defs
import SqlCompose.Calendar.Reader
import SqlCompose.Proofs.Calendar.Timestamp
import SqlCompose.Proofs.Text.Blank

/-!
# Dates and instants are read back

A number with zeros in front has a fixed width, so both forms read it and leave what follows
(`takeFixed_padded`, `takeNumber_padded`). From this, part by part, a date and an instant of the
years from 0 to 9999 are read back as they are written: `readDate_text` and `readLenient_localText`
in the lenient form, `readStrict_text` in the strict one, which refuses an instant without offset
(`readStrict_localText`).
-/

namespace SqlCompose.Calendar

open Text

/-! ## Numbers of a fixed width -/

section Numbers

variable {width n : Nat}

theorem isDigit_of_mem_padded {c : Char} (h : c ∈ padded width n) : c.isDigit = true := by
  rcases List.mem_append.mp h with h | h
  · rw [List.eq_of_mem_replicate h]
    rfl
  · exact Nat.isDigit_of_mem_toDigits (by decide) (by decide) h

theorem length_padded (hw : 0 < width) (h : n < 10 ^ width) : (padded width n).length = width := by
  have hl := (Nat.length_toDigits_le_iff (by decide : 1 < 10) hw).mpr h
  unfold padded
  dsimp only
  rw [List.length_append, List.length_replicate]
  omega

theorem ofDigitChars_padded (width n : Nat) : Nat.ofDigitChars 10 (padded width n) 0 = n := by
  unfold padded
  dsimp only
  rw [Nat.ofDigitChars_append, Nat.ofDigitChars_replicate_zero, Nat.mul_zero,
    Nat.ofDigitChars_ten_toDigits]

theorem exists_padded_eq_cons (width n : Nat) :
    ∃ c s, padded width n = c :: s ∧ c.isDigit = true := by
  cases h : padded width n with
  | nil => exact absurd (List.append_eq_nil_iff.mp h).2 Nat.toDigits_ne_nil
  | cons c s => exact ⟨c, s, rfl, isDigit_of_mem_padded (h ▸ List.mem_cons_self)⟩

theorem takeWhile_padded (s : List Char) :
    (padded width n ++ s).takeWhile Char.isDigit = padded width n ++ s.takeWhile Char.isDigit :=
  List.takeWhile_append_of_pos fun _ hc => isDigit_of_mem_padded hc

variable (hw : 0 < width) (h : n < 10 ^ width)
include hw h

theorem takeFixed_padded (s : List Char) : takeFixed width (padded width n ++ s) = some (n, s) := by
  have hl := length_padded hw h
  have hd : (padded width n).all Char.isDigit = true :=
    List.all_eq_true.mpr fun c hc => isDigit_of_mem_padded hc
  unfold takeFixed
  dsimp only
  rw [List.take_left' hl, List.drop_left' hl, if_pos ⟨hl, hd⟩, ofDigitChars_padded]

theorem takeNumber_padded (s : List Char) :
    takeNumber width (padded width n ++ s) = some (n, s) := by
  have hl := length_padded hw h
  have ht : (padded width n ++ []).takeWhile Char.isDigit = _ := takeWhile_padded []
  rw [List.append_nil, List.takeWhile_nil, List.append_nil] at ht
  obtain ⟨c, cs, hc, -⟩ := exists_padded_eq_cons width n
  unfold takeNumber
  rw [List.take_left' hl, ht]
  split
  · rename_i hn
    rw [hc] at hn
    cases hn
  · rw [List.drop_left, ofDigitChars_padded]

/-- The digits of a fraction count for as many nanoseconds as nine digits would. -/
theorem takeFraction_padded (h9 : width ≤ 9) {s : List Char} (hs : s.takeWhile Char.isDigit = []) :
    takeFraction ('.' :: padded width n ++ s) = some (n * 10 ^ (9 - width), s) := by
  have hl := length_padded hw h
  have ht : (padded width n ++ List.replicate 9 '0').take 9 =
      padded width n ++ List.replicate (9 - width) '0' := by
    rw [List.take_append, hl, List.take_of_length_le (by omega), List.take_replicate]
    congr 2
    omega
  obtain ⟨c, cs, hc, -⟩ := exists_padded_eq_cons width n
  rw [List.cons_append, takeFraction.eq_1, takeWhile_padded, hs, List.append_nil]
  split
  · rename_i hn
    rw [hc] at hn
    cases hn
  · rw [ht, Nat.ofDigitChars_append, ofDigitChars_padded, Nat.ofDigitChars_replicate_zero,
      Nat.mul_comm, List.drop_left]

end Numbers

/-! ## Blanks -/

theorem trimStart_padded (width n : Nat) (s : List Char) :
    trimStart (padded width n ++ s) = padded width n ++ s := by
  obtain ⟨c, cs, hc, hd⟩ := exists_padded_eq_cons width n
  rw [hc]
  exact trimStart_cons (isBlank_of_isDigit hd) (cs ++ s)

variable {α β : Type}

theorem bind_of_eq_some {x : Option α} {a : α} (h : x = some a) (f : α → Option β) :
    x >>= f = f a := by
  rw [h]
  rfl

theorem orElse_of_eq_some {x : Option α} {a : α} (h : x = some a) (y : Option α) :
    (x <|> y) = some a := by
  rw [h]
  rfl

theorem expect_cons (c : Char) (s : List Char) : expect c (c :: s) = some s := if_pos rfl

/-! ## Dates -/

section Dates

variable {d : Date} (hy : 0 ≤ d.year ∧ d.year ≤ 9999)

theorem yearText_eq_padded {year : Int} (h : 0 ≤ year ∧ year ≤ 9999) :
    yearText year = padded 4 year.toNat := by
  unfold yearText
  rw [if_neg (by omega), if_neg (by omega)]
  congr 1
  omega

theorem takeYear_padded (h : n < 10000) (s : List Char) :
    takeYear (padded 4 n ++ s) = some ((n : Int), s) := by
  obtain ⟨c, cs, hc, hd⟩ := exists_padded_eq_cons 4 n
  unfold takeYear
  split
  · rename_i heq
    rw [hc] at heq
    cases (List.cons.inj heq).1
    cases hd
  · rename_i heq
    rw [hc] at heq
    cases (List.cons.inj heq).1
    cases hd
  · rw [takeNumber_padded (by decide) h]
    rfl

include hy

theorem Date.digits_append (s : List Char) : d.digits ++ s = padded 4 d.year.toNat ++
    '-' :: (padded 2 d.month ++ '-' :: (padded 2 d.dayOfMonth ++ s)) := by
  unfold Date.digits
  rw [yearText_eq_padded hy]
  simp only [List.append_assoc, List.cons_append]

theorem takeDate_digits (s : List Char) : takeDate (d.digits ++ s) = some (d, s) := by
  have hb : isBlank '-' = false := by decide
  have hn : (d.year.toNat : Int) = d.year := Int.toNat_of_nonneg hy.1
  have hyear := takeYear_padded (n := d.year.toNat) (by omega)
  have hmonth := takeNumber_padded (by decide : 0 < 2) d.month_lt
  have hday := takeNumber_padded (by decide : 0 < 2) d.dayOfMonth_lt
  rw [Date.digits_append hy]
  unfold takeDate
  simp only [Option.bind_eq_bind, Option.bind_some, trimStart_padded, trimStart_cons hb, expect_cons,
    hyear, hmonth, hday, hn, d.ofYmd?_ymd, Option.pure_def]

/-- A date is read back from its text. -/
theorem readDate_text : readDate d.text.toList = some d := by
  have ht := takeDate_digits hy []
  rw [List.append_nil] at ht
  have hd : d.text.toList = d.digits := String.toList_ofList
  unfold readDate
  rw [hd, ht]
  rfl

end Dates

/-! ## Times -/

section Times

variable {t : TimeOfDay}

theorem TimeOfDay.digits_append (s : List Char) : t.digits ++ s = padded 2 (t.second / 3600) ++
    ':' :: (padded 2 (t.second / 60 % 60) ++
      ':' :: (padded 2 (t.second % 60 + t.nano / secondNanos) ++
        (TimeOfDay.fraction (t.nano % secondNanos) ++ s))) := by
  unfold TimeOfDay.digits
  simp only [List.append_assoc, List.cons_append]

/-- A fraction is read back with nothing, a mark or a sign behind it. -/
theorem takeFraction_fraction {nano : Nat} (h : nano < secondNanos) {s : List Char}
    (hs : s.takeWhile Char.isDigit = []) (hp : s.head? ≠ some '.') :
    takeFraction (TimeOfDay.fraction nano ++ s) = some (nano, s) := by
  unfold secondNanos at h
  unfold TimeOfDay.fraction
  split
  · rename_i h0
    rw [h0, List.nil_append]
    unfold takeFraction
    split
    · exact absurd rfl hp
    · rfl
  · split
    · rename_i h3
      rw [takeFraction_padded (by decide) (by omega) (by decide) hs]
      congr 2
      omega
    · split
      · rename_i h6
        rw [takeFraction_padded (by decide) (by omega) (by decide) hs]
        congr 2
        omega
      · rw [takeFraction_padded (by decide) (by omega) (by decide) hs]
        congr 2
        omega

theorem clock_lt : t.second / 3600 < 10 ^ 2 ∧ t.second / 60 % 60 < 10 ^ 2 ∧
    t.second % 60 + t.nano / secondNanos < 10 ^ 2 := by
  have hs := t.second_lt
  have hn := t.nano_lt
  unfold daySeconds at hs
  unfold secondNanos at hn ⊢
  omega

theorem nano_mod_lt : t.nano % secondNanos < secondNanos := Nat.mod_lt _ (by decide)

theorem takeTime_digits : takeTime t.digits = some (t.written, []) := by
  have hb : isBlank ':' = false := by decide
  obtain ⟨hh, hm, hs⟩ := clock_lt (t := t)
  have hhour := takeNumber_padded (by decide : 0 < 2) hh
  have hminute := takeNumber_padded (by decide : 0 < 2) hm
  have hsecond := takeNumber_padded (by decide : 0 < 2) hs
  have hnano := takeFraction_fraction (nano_mod_lt (t := t)) (s := []) rfl (by decide)
  rw [← List.append_nil t.digits, TimeOfDay.digits_append]
  unfold takeTime
  simp only [Option.bind_eq_bind, Option.bind_some, trimStart_padded, trimStart_cons hb,
    expect_cons, hhour, hminute, hsecond, hnano, t.ofClock?_clock, Option.pure_def]

end Times

/-! ## Instants -/

section Instants

variable {u : Timestamp} (hy : 0 ≤ u.date.year ∧ u.date.year ≤ 9999)
include hy

/-- An instant without offset is read in the lenient form as it is written. -/
theorem readLenient_localText : readLenient u.localText.toList = some u.written := by
  have hb : isBlank 'T' = false := by decide
  have hd : u.localText.toList = u.digits := String.toList_ofList
  rw [hd]
  unfold readLenient Timestamp.digits
  simp only [Option.bind_eq_bind, Option.bind_some, takeDate_digits hy, trimStart_cons hb,
    expect_cons, takeTime_digits]
  rfl

theorem Timestamp.digits_append (s : List Char) : u.digits ++ s =
    padded 4 u.date.year.toNat ++ '-' :: (padded 2 u.date.month ++
      '-' :: (padded 2 u.date.dayOfMonth ++ 'T' :: (padded 2 (u.time.second / 3600) ++
        ':' :: (padded 2 (u.time.second / 60 % 60) ++
          ':' :: (padded 2 (u.time.second % 60 + u.time.nano / secondNanos) ++
            (TimeOfDay.fraction (u.time.nano % secondNanos) ++ s)))))) := by
  unfold Timestamp.digits
  rw [List.append_assoc, List.cons_append, Date.digits_append hy, TimeOfDay.digits_append]

/-- In the strict form what counts is the offset behind the digits. -/
theorem readStrict_digits_append {s : List Char} (hs : s.takeWhile Char.isDigit = [])
    (hp : s.head? ≠ some '.') : readStrict (u.digits ++ s) =
      (takeOffset s).bind fun o =>
        if o.2 ≠ [] then none
        else Timestamp.ofSeconds? (u.written.seconds - o.1) u.time.written.nano := by
  obtain ⟨hh, hm, hsec⟩ := clock_lt (t := u.time)
  have hyear := takeFixed_padded (by decide : 0 < 4) (n := u.date.year.toNat) (by omega)
  have hmonth := takeFixed_padded (by decide : 0 < 2) u.date.month_lt
  have hday := takeFixed_padded (by decide : 0 < 2) u.date.dayOfMonth_lt
  have hhour := takeFixed_padded (by decide : 0 < 2) hh
  have hminute := takeFixed_padded (by decide : 0 < 2) hm
  have hsecond := takeFixed_padded (by decide : 0 < 2) hsec
  have hnano := takeFraction_fraction (nano_mod_lt (t := u.time)) hs hp
  have hny : (u.date.year.toNat : Int) = u.date.year := Int.toNat_of_nonneg hy.1
  rw [Timestamp.digits_append hy]
  unfold readStrict
  refine (bind_of_eq_some (hyear _) _).trans ?_
  refine (bind_of_eq_some (expect_cons '-' _) _).trans ?_
  refine (bind_of_eq_some (hmonth _) _).trans ?_
  refine (bind_of_eq_some (expect_cons '-' _) _).trans ?_
  refine (bind_of_eq_some (hday _) _).trans ?_
  refine (bind_of_eq_some (orElse_of_eq_some (expect_cons 'T' _) _) _).trans ?_
  refine (bind_of_eq_some (hhour _) _).trans ?_
  refine (bind_of_eq_some (expect_cons ':' _) _).trans ?_
  refine (bind_of_eq_some (hminute _) _).trans ?_
  refine (bind_of_eq_some (expect_cons ':' _) _).trans ?_
  refine (bind_of_eq_some (hsecond _) _).trans ?_
  refine (bind_of_eq_some hnano _).trans ?_
  refine bind_congr fun o => ?_
  dsimp only
  rw [hny, u.date.ofYmd?_ymd, u.time.ofClock?_clock]
  rfl

/-- An instant is read from its text as it is written. -/
theorem readStrict_text : readStrict u.text.toList = some u.written := by
  have hd : u.text.toList = u.digits ++ "+00:00".toList := String.toList_ofList
  have ho : takeOffset "+00:00".toList = some (0, []) := rfl
  rw [hd, readStrict_digits_append hy rfl (by decide), ho, Option.bind_some, Int.sub_zero]
  exact u.written.ofSeconds?_seconds

/-- An instant without offset is none in the strict form. -/
theorem readStrict_localText : readStrict u.localText.toList = none := by
  have hd : u.localText.toList = u.digits ++ [] := by
    rw [List.append_nil]
    exact String.toList_ofList
  rw [hd, readStrict_digits_append hy rfl (by decide)]
  rfl

end Instants

end SqlCompose.Calendar
