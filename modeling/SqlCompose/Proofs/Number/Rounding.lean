import SqlCompose.Number.Binary

/-!
# Rounding integers to binary numbers

An integer of 64 bits that does not fit 63 is rounded to a number with the exponent `63`, or to the
power of two above (`Binary64.ofInt_wide`), so it is rounded to a finite one
(`Binary64.isFinite_ofInt`).
-/

namespace SqlCompose

/-- Rounding is off by half of the denominator at most. -/
theorem roundQuotient_near (num : Nat) {den : Nat} (h : 0 < den) :
    2 * num ≤ 2 * (den * roundQuotient num den) + den ∧
      2 * (den * roundQuotient num den) ≤ 2 * num + den := by
  have hd := Nat.div_add_mod num den
  have hm := Nat.mod_lt num h
  unfold roundQuotient
  dsimp only
  split
  · rw [Nat.mul_add, Nat.mul_one]
    omega
  · omega

/-- The exponent of an integer of 64 bits is known, so only its significand is rounded. -/
theorem BinaryFormat.double_ofQuotient {n : Nat} (h : 0x8000000000000000 ≤ n)
    (h' : n < 0x10000000000000000) : double.ofQuotient n 1 =
      min (1085 * double.unit + roundQuotient n 0x800) double.infinity := by
  have hl : n.log2 = 63 := (Nat.log2_eq_iff (by omega)).mpr ⟨h, h'⟩
  have ht : ((63 : Nat) : Int) - ((1 : Nat).log2 : Int) = 63 := by decide
  have hs : scaleByTwo n 1 (-63) = (n, 0x8000000000000000) := rfl
  have he : scaleByTwo n 1 (-11) = (n, 0x800) := rfl
  have hm : max double.minExponent (63 - (double.fractionBits : Int)) = 11 := by decide
  unfold ofQuotient
  rw [if_neg (by omega)]
  simp only [hl, ht, hs, if_pos h, hm, he]
  rfl

namespace Binary64

/-- An integer that needs all of 64 bits is near a finite number, whose magnitude is its rounded
significand above the exponent. -/
theorem ofInt_wide {n : Nat} (h : 0x8000000000000000 ≤ n) (h' : n < 0x10000000000000000) :
    (ofInt n).isNegative = false ∧
      (ofInt n).magnitude = 1085 * BinaryFormat.double.unit + roundQuotient n 0x800 := by
  have hu : BinaryFormat.double.unit = 0x10000000000000 := rfl
  have hi : BinaryFormat.double.infinity = 0x7ff0000000000000 := rfl
  have hs : BinaryFormat.double.signBit = 0x8000000000000000 := rfl
  have hr := roundQuotient_near n (by decide : 0 < 0x800)
  have hb : BinaryFormat.double.ofQuotient n 1 =
      1085 * BinaryFormat.double.unit + roundQuotient n 0x800 := by
    rw [BinaryFormat.double_ofQuotient h h']
    omega
  have hn : decide ((n : Int) < 0) = false := by simp
  have ht : (ofInt n).bits.toNat = BinaryFormat.double.ofQuotient n 1 := by
    unfold ofInt ofQuotient ofMagnitude
    rw [hn]
    show UInt64.toNat (UInt64.ofNat (BinaryFormat.double.ofQuotient n 1 + 0)) = _
    rw [UInt64.toNat_ofNat']
    omega
  unfold isNegative magnitude
  rw [ht, hb, decide_eq_false_iff_not]
  exact ⟨by omega, Nat.mod_eq_of_lt (by omega)⟩

theorem isFinite_ofInt {n : Int} (h : 0x8000000000000000 ≤ n) (h' : n < 0x10000000000000000) :
    (ofInt n).isFinite = true := by
  obtain ⟨m, rfl⟩ := Int.eq_ofNat_of_zero_le (by omega : 0 ≤ n)
  have hu : BinaryFormat.double.unit = 0x10000000000000 := rfl
  have hi : BinaryFormat.double.infinity = 0x7ff0000000000000 := rfl
  have hr := roundQuotient_near m (by decide : 0 < 0x800)
  unfold isFinite
  rw [(ofInt_wide (by omega) (by omega)).2, decide_eq_true_iff]
  omega

end Binary64

end SqlCompose
