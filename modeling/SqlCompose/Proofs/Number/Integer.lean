import Mathlib.Data.Nat.Digits.Defs
import SqlCompose.Number.Integer

/-!
# Integers and the texts that spell them

A text spells an integer by decimal digits behind an optional sign. It spells one at most
(`Spells.unique`), and the decimal text of an integer spells that one (`spells_decimalDigits`).
Reading goes on only as long as what was read is in the range, but a prefix of digits never counts
for more than all of them, so a range reads just the texts that spell one of its integers
(`IntegerRange.read_eq_ok_iff`).
-/

namespace SqlCompose

/-- Decimal digits, at least one of them. -/
def IsNumeral (s : List Char) : Prop := s ≠ [] ∧ ∀ c ∈ s, c.isDigit = true

/-- The text spells the integer: decimal digits, with a sign in front of them or without one. -/
inductive Spells : List Char → Int → Prop where
  | unsigned {ds : List Char} (h : IsNumeral ds) : Spells ds (Nat.ofDigitChars 10 ds 0)
  | plus {ds : List Char} (h : IsNumeral ds) : Spells ('+' :: ds) (Nat.ofDigitChars 10 ds 0)
  | minus {ds : List Char} (h : IsNumeral ds) : Spells ('-' :: ds) (-Nat.ofDigitChars 10 ds 0)

theorem isNumeral_toDigits (n : Nat) : IsNumeral (Nat.toDigits 10 n) :=
  ⟨Nat.toDigits_ne_nil, fun _ hc => Nat.isDigit_of_mem_toDigits (by decide) (by decide) hc⟩

theorem IsNumeral.ne_sign {c : Char} {s : List Char} (h : IsNumeral (c :: s)) :
    c ≠ '+' ∧ c ≠ '-' := by
  have hc : c.isDigit = true := h.2 c List.mem_cons_self
  constructor
  · rintro rfl
    cases hc
  · rintro rfl
    cases hc

/-- The decimal text of an integer spells it. -/
theorem spells_decimalDigits (n : Int) : Spells (decimalDigits n) n := by
  cases n with
  | ofNat n =>
    have h := Spells.unsigned (isNumeral_toDigits n)
    rwa [Nat.ofDigitChars_ten_toDigits] at h
  | negSucc n =>
    have h := Spells.minus (isNumeral_toDigits (n + 1))
    rwa [Nat.ofDigitChars_ten_toDigits] at h

theorem spells_plus_iff {ds : List Char} {n : Int} :
    Spells ('+' :: ds) n ↔ IsNumeral ds ∧ n = Nat.ofDigitChars 10 ds 0 := by
  constructor
  · intro h
    cases h with
    | unsigned h => exact absurd rfl h.ne_sign.1
    | plus h => exact ⟨h, rfl⟩
  · rintro ⟨h, rfl⟩
    exact .plus h

theorem spells_minus_iff {ds : List Char} {n : Int} :
    Spells ('-' :: ds) n ↔ IsNumeral ds ∧ n = -Nat.ofDigitChars 10 ds 0 := by
  constructor
  · intro h
    cases h with
    | unsigned h => exact absurd rfl h.ne_sign.2
    | minus h => exact ⟨h, rfl⟩
  · rintro ⟨h, rfl⟩
    exact .minus h

theorem spells_iff_of_unsigned {s : List Char} (hp : ∀ ds, s ≠ '+' :: ds) (hm : ∀ ds, s ≠ '-' :: ds)
    {n : Int} : Spells s n ↔ IsNumeral s ∧ n = Nat.ofDigitChars 10 s 0 := by
  constructor
  · intro h
    cases h with
    | unsigned h => exact ⟨h, rfl⟩
    | plus h => exact absurd rfl (hp _)
    | minus h => exact absurd rfl (hm _)
  · rintro ⟨h, rfl⟩
    exact .unsigned h

/-- A text spells one integer. -/
theorem Spells.unique {s : List Char} {n m : Int} (hn : Spells s n) (hm : Spells s m) : n = m := by
  cases hn with
  | unsigned h =>
    cases hm with
    | unsigned _ => rfl
    | plus _ => exact absurd rfl h.ne_sign.1
    | minus _ => exact absurd rfl h.ne_sign.2
  | plus _ => exact (spells_plus_iff.mp hm).2.symm
  | minus _ => exact (spells_minus_iff.mp hm).2.symm

/-- Further digits make no number smaller. -/
theorem le_ofDigitChars (s : List Char) (m : Nat) : m ≤ Nat.ofDigitChars 10 s m := by
  induction s generalizing m with
  | nil => exact Nat.le_refl m
  | cons c s ih =>
    rw [Nat.ofDigitChars_cons]
    exact Nat.le_trans (by omega) (ih _)

theorem ofDigitChars_lt {s : List Char} (h : ∀ c ∈ s, c.isDigit = true) (m : Nat) :
    Nat.ofDigitChars 10 s m < (m + 1) * 10 ^ s.length := by
  induction s generalizing m with
  | nil =>
    show m < (m + 1) * 1
    omega
  | cons c s ih =>
    have hc : c.toNat - '0'.toNat ≤ 9 :=
      Nat.sub_le_sub_right (Char.isDigit_iff_toNat.mp (h c List.mem_cons_self)).2 _
    have hs := ih (fun d hd => h d (List.mem_cons_of_mem c hd)) (10 * m + (c.toNat - '0'.toNat))
    rw [Nat.ofDigitChars_cons, List.length_cons, pow_succ', ← Nat.mul_assoc]
    exact Nat.lt_of_lt_of_le hs (Nat.mul_le_mul_right _ (by omega))

theorem IsNumeral.lt {s : List Char} (h : IsNumeral s) :
    Nat.ofDigitChars 10 s 0 < 10 ^ s.length := by
  have hs := ofDigitChars_lt h.2 0
  rwa [Nat.zero_add, Nat.one_mul] at hs

/-- A text that spells an integer starts with a sign or a digit, and an integer of many digits
needs as many characters. -/
theorem Spells.exists_cons {s : List Char} {n : Int} (h : Spells s n) :
    ∃ c ds, s = c :: ds ∧ '+'.toNat ≤ c.toNat ∧ c.toNat ≤ '9'.toNat ∧
      n < (10 ^ s.length : Nat) := by
  cases h with
  | unsigned h =>
    obtain ⟨c, ds, rfl⟩ := List.exists_cons_of_ne_nil h.1
    obtain ⟨hl, hu⟩ := Char.isDigit_iff_toNat.mp (h.2 c List.mem_cons_self)
    exact ⟨c, ds, rfl, Nat.le_trans (by decide) hl, hu, Int.ofNat_lt.mpr h.lt⟩
  | @plus ds h =>
    refine ⟨'+', ds, rfl, Nat.le_refl _, by decide, Int.ofNat_lt.mpr ?_⟩
    exact Nat.lt_of_lt_of_le h.lt (Nat.pow_le_pow_right (by decide) (Nat.le_succ _))
  | @minus ds h =>
    have hp : 0 < 10 ^ ('-' :: ds).length := Nat.pow_pos (by decide)
    exact ⟨'-', ds, rfl, by decide, by decide, by omega⟩

namespace IntegerRange

variable {r : IntegerRange} {n : Int}

theorem contains_iff : r.contains n = true ↔ r.least ≤ n ∧ n ≤ r.greatest := by
  simp [contains]

variable (hr : r.least ≤ 0 ∧ 0 ≤ r.greatest)
include hr

/-- Behind the digits of `m` further digits are read, each counted with the sign. -/
theorem readDigits_eq_ok_iff {sign : Int} (hs : sign = 1 ∨ sign = -1) {s : List Char} {m : Nat}
    (hm : r.contains (sign * m) = true) :
    r.readDigits sign (sign * m) s = .ok n ↔
      (∀ c ∈ s, c.isDigit = true) ∧ n = sign * Nat.ofDigitChars 10 s m ∧ r.contains n = true := by
  induction s generalizing m with
  | nil =>
    constructor
    · intro h
      cases h
      exact ⟨nofun, rfl, hm⟩
    · rintro ⟨-, rfl, -⟩
      rfl
  | cons c s ih =>
    rw [Nat.ofDigitChars_cons, List.forall_mem_cons, readDigits]
    unfold digitValue?
    by_cases hc : c.isDigit = true
    · generalize c.toNat - '0'.toNat = d
      have hd : sign * m * 10 + sign * d = sign * (10 * m + d : Nat) := by
        rcases hs with rfl | rfl <;> omega
      -- The number of all digits lies beyond the one of these, on the same side of zero.
      have hle := le_ofDigitChars s (10 * m + d)
      rw [if_pos hc]
      dsimp only
      rw [hd]
      by_cases hl : sign * (10 * m + d : Nat) < r.least
      · rw [if_pos hl, contains_iff]
        refine iff_of_false nofun ?_
        rintro ⟨-, rfl, hn⟩
        rcases hs with rfl | rfl <;> omega
      rw [if_neg hl]
      by_cases hg : r.greatest < sign * (10 * m + d : Nat)
      · rw [if_pos hg, contains_iff]
        refine iff_of_false nofun ?_
        rintro ⟨-, rfl, hn⟩
        rcases hs with rfl | rfl <;> omega
      rw [if_neg hg, ih (contains_iff.mpr ⟨Int.not_lt.mp hl, Int.not_lt.mp hg⟩), and_iff_right hc]
    · rw [if_neg hc]
      exact iff_of_false nofun fun h => hc h.1.1

theorem readDigits_zero_eq_ok_iff {sign : Int} (hs : sign = 1 ∨ sign = -1) {s : List Char} :
    r.readDigits sign 0 s = .ok n ↔
      (∀ c ∈ s, c.isDigit = true) ∧ n = sign * Nat.ofDigitChars 10 s 0 ∧ r.contains n = true := by
  have hz : r.contains (sign * (0 : Nat)) = true := by
    rw [contains_iff]
    rcases hs with rfl | rfl <;> exact hr
  have h := readDigits_eq_ok_iff hr hs (s := s) (n := n) hz
  rwa [Int.natCast_zero, Int.mul_zero] at h

/-- A range reads the texts that spell one of its integers. -/
theorem read_eq_ok_iff {s : List Char} :
    r.read s = .ok n ↔ Spells s n ∧ r.contains n = true := by
  unfold read
  split
  · refine iff_of_false nofun fun h => ?_
    have hn : ∀ (c : Char) (ds : List Char), [] ≠ c :: ds := nofun
    exact ((spells_iff_of_unsigned (hn '+') (hn '-')).mp h.1).1.1 rfl
  · exact iff_of_false nofun fun h => (spells_plus_iff.mp h.1).1.1 rfl
  · exact iff_of_false nofun fun h => (spells_minus_iff.mp h.1).1.1 rfl
  · rename_i ds hne
    rw [readDigits_zero_eq_ok_iff hr (.inl rfl), spells_plus_iff, Int.one_mul, IsNumeral, and_assoc,
      and_assoc, and_iff_right hne]
  · rename_i ds hne
    rw [readDigits_zero_eq_ok_iff hr (.inr rfl), spells_minus_iff, Int.neg_one_mul, IsNumeral,
      and_assoc, and_assoc, and_iff_right hne]
  · rename_i hn _ _ hp hm
    rw [readDigits_zero_eq_ok_iff hr (.inl rfl), spells_iff_of_unsigned, Int.one_mul, IsNumeral,
      and_assoc, and_assoc, and_iff_right hn]
    · exact hp
    · exact hm

end IntegerRange

end SqlCompose
