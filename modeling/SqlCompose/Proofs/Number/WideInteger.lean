import SqlCompose.Proofs.Number.Positional
import SqlCompose.Proofs.Number.Rounding

/-!
# The text of integers of 64 bits

From `2 ^ 63` to `2 ^ 64` the binary numbers are the multiples of 2048, and each reads back from
what is less than 1024 away from it.

1. On the grid of thousands (`BinaryFormat.wideGrid`) there is always a decimal that reads back, so
   the shortest digits are found there or on a coarser grid and have three zeros behind them
   (`exists_wideGrid`).
2. They are those of the number itself if that is a multiple of a thousand, unless a multiple of ten
   thousand is a thousand away (`exists_text_wide`).
-/

namespace SqlCompose

namespace ReadBack

variable {r : ReadBack} {tie : DecimalTie}

/-- What is found reads back. -/
theorem holds_of_nearest? {n : Nat} (h : r.nearest? tie = some n) : r.holds n 1 = true := by
  unfold nearest? at h
  grind

/-- One of the neighbours is found if one of them reads back. -/
theorem isSome_nearest? (h : r.holds (r.value / r.den) 1 = true ∨
    r.holds (r.value / r.den + 1) 1 = true) : (r.nearest? tie).isSome := by
  unfold nearest?
  grind

/-- The number itself is found if it is on the grid. -/
theorem nearest?_of_value {n : Nat} (hd : 0 < r.den) (hv : r.value = n * r.den)
    (h : r.holds n 1 = true) : r.nearest? tie = some n := by
  have hn : r.value / r.den = n := by
    rw [hv]
    exact Nat.mul_div_cancel n hd
  unfold nearest?
  dsimp only
  rw [hn, h, hv]
  split <;> grind

theorem bounds_of_holds {n : Nat} (h : r.holds n 1 = true) :
    r.lower ≤ n * r.den ∧ n * r.den ≤ r.upper := by
  unfold holds at h
  grind

theorem holds_of_lt {n : Nat} (hl : r.lower < n * r.den) (hu : n * r.den < r.upper) :
    r.holds n 1 = true := by
  unfold holds
  grind

/-- An interval of integers in units of a power of ten. -/
theorem inUnits_natCast (h : r.den = 1) (e : Nat) : r.inUnits e = { r with den := 10 ^ e } := by
  have hs : scaleByTen 1 1 (-(e : Int)) = (1, 10 ^ e) := by
    unfold scaleByTen
    split
    · obtain rfl : e = 0 := by omega
      rfl
    · rw [Int.neg_neg, Int.toNat_natCast, Nat.one_mul]
      rfl
  unfold inUnits
  rw [hs, h]
  simp

end ReadBack

namespace BinaryFormat

variable {q : Nat}

/-- The magnitude of a significand with the exponent of the integers from `2 ^ 63` on. -/
def wide (q : Nat) : Nat := 1085 * double.unit + q

theorem parts_wide (h : 0x10000000000000 ≤ q) (h' : q < 0x20000000000000) :
    double.parts (wide q) = (q, 11) := by
  have hu : double.unit = 0x10000000000000 := rfl
  have hd : wide q / double.unit = 1086 := by
    unfold wide
    rw [hu]
    omega
  have hm : wide q % double.unit = q - 0x10000000000000 := by
    unfold wide
    rw [hu]
    omega
  unfold parts
  rw [hd, hm, hu]
  show (0x10000000000000 + (q - 0x10000000000000), _) = _
  rw [Nat.add_sub_cancel' h]
  rfl

/-- The interval of a number that is no power of two, on the grid of decimals with `e` zeros. -/
def wideGrid (q e : Nat) : ReadBack :=
  ⟨2048 * q, 2048 * q - 1024, 2048 * q + 1024, 10 ^ e, q % 2 == 0⟩

theorem readBack_wide (h : 0x10000000000000 < q) (h' : q < 0x20000000000000) :
    ReadBack.ofMagnitude double (wide q) = wideGrid q 0 := by
  have hv : 4 * q * 512 = 2048 * q := by omega
  have hl : (4 * q - 2) * 512 = 2048 * q - 1024 := by rw [Nat.sub_mul, hv]
  have hg : (4 * q + 2) * 512 = 2048 * q + 1024 := by rw [Nat.add_mul, hv]
  have hu : double.unit = 0x10000000000000 := rfl
  have hm : ¬ (wide q % double.unit = 0 ∧ double.unit < wide q) := by
    unfold wide
    rw [hu]
    omega
  have hs : scaleByTwo 1 1 (11 - 2) = (512, 1) := rfl
  unfold ReadBack.ofMagnitude
  rw [parts_wide (by omega) h']
  dsimp only
  rw [if_neg hm, hs]
  dsimp only
  rw [hv, hl, hg]
  rfl

theorem decimalPoint_wide {n : Nat} (h : 0x8000000000000000 ≤ n) (h' : n < 0x10000000000000000) :
    decimalPoint n 1 = 19 ∨ decimalPoint n 1 = 20 := by
  have hlog : (1 : Nat).log2 + 1 = 1 := by decide
  have hlow : ¬ (Nat.toDigits 10 (n * 10)).length ≤ 19 := by
    rw [Nat.length_toDigits_le_iff (by decide) (by decide)]
    omega
  have hhigh : (Nat.toDigits 10 (n * 10)).length ≤ 21 := by
    rw [Nat.length_toDigits_le_iff (by decide) (by decide)]
    omega
  unfold decimalPoint
  rw [hlog]
  dsimp only
  rw [show n * Nat.pow 10 1 / 1 = n * 10 from Nat.div_one _]
  omega

/-! ### Grids -/

theorem bounds_of_wideGrid {e n : Nat} (h : (wideGrid q e).nearest? .up = some n) :
    2048 * q - 1024 ≤ n * 10 ^ e ∧ n * 10 ^ e ≤ 2048 * q + 1024 := by
  have hb := ReadBack.bounds_of_holds (ReadBack.holds_of_nearest? h)
  dsimp only [wideGrid] at hb
  exact hb

/-- Some thousand reads back. -/
theorem isSome_thousands (h : 0 < q) : ((wideGrid q 3).nearest? .up).isSome := by
  refine ReadBack.isSome_nearest? (.inl (ReadBack.holds_of_lt ?_ ?_))
  · show 2048 * q - 1024 < 2048 * q / 1000 * 1000
    omega
  · show 2048 * q / 1000 * 1000 < 2048 * q + 1024
    omega

/-- A number of thousands is the nearest of them. -/
theorem nearest?_thousands (h : 0 < q) {n : Nat} (hn : 2048 * q = n * 1000) :
    (wideGrid q 3).nearest? .up = some n := by
  refine ReadBack.nearest?_of_value (Nat.pow_pos (by decide)) hn (ReadBack.holds_of_lt ?_ ?_)
  · show 2048 * q - 1024 < n * 1000
    omega
  · show n * 1000 < 2048 * q + 1024
    omega

/-- A multiple of ten thousand that is a thousand away reads back. -/
theorem isSome_tenThousands (h : 2048 * q % 10000 = 1000 ∨ 2048 * q % 10000 = 9000) :
    ((wideGrid q 4).nearest? .up).isSome := by
  rcases h with h | h
  · refine ReadBack.isSome_nearest? (.inl (ReadBack.holds_of_lt ?_ ?_))
    · show 2048 * q - 1024 < 2048 * q / 10000 * 10000
      omega
    · show 2048 * q / 10000 * 10000 < 2048 * q + 1024
      omega
  · refine ReadBack.isSome_nearest? (.inr (ReadBack.holds_of_lt ?_ ?_))
    · show 2048 * q - 1024 < (2048 * q / 10000 + 1) * 10000
      omega
    · show (2048 * q / 10000 + 1) * 10000 < 2048 * q + 1024
      omega

/-- The shortest digits are found on the grid of thousands or on a coarser one, and on that of
thousands only if that of ten thousands has none. -/
theorem exists_wideGrid (h : 0x10000000000000 < q) (h' : q < 0x20000000000000) :
    ∃ e n, 3 ≤ e ∧ (wideGrid q e).nearest? .up = some n ∧
      (e = 3 → (wideGrid q 4).nearest? .up = none) ∧
      (double.shortest .up (wide q)).positional [] = Nat.toDigits 10 (n * 10 ^ e) := by
  have hr := readBack_wide h h'
  obtain ⟨p, hp, hp₁, hp₂⟩ : ∃ p : Nat,
      decimalPoint (wideGrid q 0).value (wideGrid q 0).den = (p + 4 : Nat) ∧ 1 ≤ p ∧
        p < maxDigits := by
    have hd : decimalPoint (2048 * q) 1 = 19 ∨ decimalPoint (2048 * q) 1 = 20 :=
      decimalPoint_wide (by omega) (by omega)
    rcases hd with hd | hd
    · exact ⟨15, hd, by decide, by decide⟩
    · exact ⟨16, hd, by decide, by decide⟩
  -- With `p + 4` places the grid that is tried at `k` has `p + 3 - k` zeros.
  have hgrid {k e : Nat} (he : k + e = p + 3) :
      (wideGrid q 0).inUnits ((p + 4 : Nat) - (k + 1 : Nat)) = wideGrid q e := by
    rw [show ((p + 4 : Nat) : Int) - (k + 1 : Nat) = (e : Nat) by omega,
      ReadBack.inUnits_natCast rfl]
    rfl
  obtain ⟨k, hk, n, hn, hfirst, hs⟩ := exists_shortest double .up hr hp hp₂
    (by rw [hgrid rfl]; exact isSome_thousands (by omega))
  obtain ⟨e, he⟩ := Nat.exists_eq_add_of_le (by omega : k ≤ p + 3)
  rw [hgrid he.symm] at hn
  have hn₀ : n ≠ 0 := by
    rintro rfl
    have hb := (bounds_of_wideGrid hn).1
    omega
  refine ⟨e, n, by omega, hn, fun h₃ => ?_, ?_⟩
  · have hf := hfirst (k - 1) (by omega)
    rwa [hgrid (by omega : k - 1 + 4 = p + 3)] at hf
  · rw [hs, ← DecimalDigits.positional_stripped hn₀]
    congr 2
    omega

/-- Of the multiples of ten thousand only a neighbour is as near to a multiple of a thousand. -/
theorem eq_of_tenThousands {k v : Nat} (hk : 10000 ∣ k) (hv : 1000 ∣ v) (hl : v - 1024 ≤ k)
    (hu : k ≤ v + 1024) (h₁ : v % 10000 ≠ 1000) (h₉ : v % 10000 ≠ 9000) : k = v := by
  obtain ⟨c, rfl⟩ := hk
  obtain ⟨d, rfl⟩ := hv
  omega

/-- The text of a number between two powers of two. It is a multiple of a thousand that reads back,
and it is the number itself if that is such a multiple and no multiple of ten thousand is a thousand
away. -/
theorem exists_text_between (h : 0x10000000000000 < q) (h' : q < 0x20000000000000) :
    ∃ k, (double.shortest .up (wide q)).positional [] = Nat.toDigits 10 k ∧ 1000 ∣ k ∧
      2048 * q ≤ k + 1024 ∧ k ≤ 2048 * q + 1024 ∧
      (k = 2048 * q ↔ 1000 ∣ 2048 * q ∧ 2048 * q % 10000 ≠ 1000 ∧ 2048 * q % 10000 ≠ 9000) := by
  obtain ⟨e, n, he, hn, hfirst, ht⟩ := exists_wideGrid h h'
  obtain ⟨hl, hu⟩ := bounds_of_wideGrid hn
  have hd {i : Nat} (hi : i ≤ e) : 10 ^ i ∣ n * 10 ^ e :=
    Nat.dvd_mul_left_of_dvd (Nat.pow_dvd_pow 10 hi) n
  have hd₃ : 1000 ∣ n * 10 ^ e := hd he
  refine ⟨_, ht, hd₃, by omega, hu, fun hk => ⟨hk ▸ hd₃, ?_⟩, fun ⟨hv, h₁, h₉⟩ => ?_⟩
  · rw [← not_or]
    intro h₄
    rcases Nat.eq_or_lt_of_le he with rfl | he
    · have hs := isSome_tenThousands h₄
      rw [hfirst rfl] at hs
      cases hs
    · have hd₄ : 10000 ∣ n * 10 ^ e := hd he
      rw [hk] at hd₄
      have hm := Nat.mod_eq_zero_of_dvd hd₄
      rw [hm] at h₄
      rcases h₄ with h₄ | h₄ <;> cases h₄
  · rcases Nat.eq_or_lt_of_le he with rfl | he
    · obtain ⟨m, hm⟩ := hv
      rw [nearest?_thousands (by omega) (hm.trans (Nat.mul_comm _ _))] at hn
      cases hn
      omega
    · exact eq_of_tenThousands (hd he) hv hl hu h₁ h₉

/-- The text of a number of 64 bits. The two powers of two at the ends are no multiples of a
thousand. -/
theorem exists_text_wide (h : 0x10000000000000 ≤ q) (h' : q ≤ 0x20000000000000) :
    ∃ k, (double.shortest .up (wide q)).positional [] = Nat.toDigits 10 k ∧ 1000 ∣ k ∧
      2048 * q ≤ k + 1024 ∧ k ≤ 2048 * q + 1024 ∧
      (k = 2048 * q ↔ 1000 ∣ 2048 * q ∧ 2048 * q % 10000 ≠ 1000 ∧ 2048 * q % 10000 ≠ 9000) := by
  rcases Nat.eq_or_lt_of_le h with rfl | h
  · exact ⟨9223372036854776000, by decide +kernel⟩
  · rcases Nat.eq_or_lt_of_le h' with rfl | h'
    · exact ⟨18446744073709552000, by decide +kernel⟩
    · exact exists_text_between h h'

/-- The number of a wide magnitude, as a quotient. -/
theorem quotient_wide (h : 0x10000000000000 ≤ q) (h' : q ≤ 0x20000000000000) :
    scaleByTwo (double.parts (wide q)).1 1 (double.parts (wide q)).2 = (2048 * q, 1) := by
  rcases Nat.eq_or_lt_of_le h' with rfl | h'
  · decide +kernel
  · rw [parts_wide h h', Nat.mul_comm]
    rfl

end BinaryFormat

end SqlCompose
