import Mathlib.Data.List.DropRight
import SqlCompose.Number.Shortest

/-!
# The form of shortest digits

The shortest digits of a number are decimal digits that start with no zero, unless a point stands in
front of them (`BinaryFormat.proper_shortest`): no decimal that reads back is zero, since the
interval of those that do lies above zero.
-/

namespace SqlCompose

theorem head?_toDigits {n : Nat} (h : n ≠ 0) : (Nat.toDigits 10 n).head? ≠ some '0' := by
  induction n using Nat.strong_induction_on with
  | _ n ih =>
    rw [Nat.toDigits_eq_if (by decide)]
    split
    · rename_i hn
      have hd : ∀ d < 10, d ≠ 0 → d.digitChar ≠ '0' := by decide
      simpa using hd n hn h
    · rename_i hn
      have hq := ih (n / 10) (by omega) (by omega)
      rwa [List.head?_append_of_ne_nil _ Nat.toDigits_ne_nil]

namespace ReadBack

/-- Zero is none of the decimals that read back as a number above zero. -/
theorem holds_zero {r : ReadBack} (h : 0 < r.lower) : r.holds 0 1 = false := by
  unfold holds
  split
  · simp
    omega
  · simp

theorem nearest?_ne_zero {tie : DecimalTie} {r : ReadBack} (h : 0 < r.lower) {n : Nat}
    (hn : r.nearest? tie = some n) : n ≠ 0 := by
  rintro rfl
  have hz := holds_zero h
  unfold nearest? at hn
  -- Only the neighbour below can be zero, and it is not taken unless it reads back.
  grind

theorem lower_inUnits_pos {r : ReadBack} (h : 0 < r.lower) (e : Int) : 0 < (r.inUnits e).lower := by
  have hs : 0 < (scaleByTen 1 1 (-e)).1 := by
    unfold scaleByTen
    split
    · exact Nat.mul_pos Nat.one_pos (Nat.pow_pos (by decide))
    · exact Nat.one_pos
  exact Nat.mul_pos h hs

theorem significand_pos (f : BinaryFormat) {magnitude : Nat} (h : magnitude ≠ 0) :
    0 < (f.parts magnitude).1 := by
  have hu : 0 < f.unit := Nat.pow_pos (by decide)
  unfold BinaryFormat.parts
  dsimp only
  split
  · rename_i hq
    have hd := Nat.div_add_mod magnitude f.unit
    rw [hq] at hd
    show 0 < magnitude % f.unit
    omega
  · show 0 < f.unit + _
    omega

theorem lower_ofMagnitude_pos (f : BinaryFormat) {magnitude : Nat} (h : magnitude ≠ 0) :
    0 < (ofMagnitude f magnitude).lower := by
  have hm := significand_pos f h
  have hs (e : Int) : 0 < (scaleByTwo 1 1 e).1 := by
    unfold scaleByTwo
    split
    · exact Nat.mul_pos Nat.one_pos (Nat.pow_pos (by decide))
    · exact Nat.one_pos
  refine Nat.mul_pos ?_ (hs _)
  show 0 < 4 * (f.parts magnitude).1 - if _ then 1 else 2
  split <;> omega

end ReadBack

/-- Digits as they are written: at least one, and none of them a zero in front of the point that
other digits follow. -/
structure DecimalDigits.Proper (d : DecimalDigits) : Prop where
  ne_nil : d.digits ≠ []
  isDigit : ∀ c ∈ d.digits, c.isDigit = true
  leads : 0 < d.point → d.digits.head? ≠ some '0'

/-- The digits of an integer stay digits without the zeros at their end. -/
theorem DecimalDigits.proper_stripped {n : Nat} (h : n ≠ 0) (point : Int) :
    Proper ⟨((Nat.toDigits 10 n).reverse.dropWhile (· == '0')).reverse, point⟩ := by
  have hh := head?_toDigits h
  set ds := Nat.toDigits 10 n with hds
  have hp : ds.rdropWhile (· == '0') <+: ds := List.rdropWhile_prefix _ ds
  have hn : ds.rdropWhile (· == '0') ≠ [] := by
    intro he
    have hz := List.rdropWhile_eq_nil_iff.mp he
    cases hd : ds with
    | nil => exact Nat.toDigits_ne_nil (hds ▸ hd)
    | cons c cs =>
      have hc := hz c (hd ▸ List.mem_cons_self)
      rw [hd] at hh
      exact hh (congrArg some (eq_of_beq hc))
  refine ⟨hn, fun c hc => ?_, fun _ => ?_⟩
  · exact Nat.isDigit_of_mem_toDigits (by decide) (by decide) (hp.subset hc)
  · obtain ⟨rest, hr⟩ := hp
    rwa [← hr, List.head?_append_of_ne_nil _ hn] at hh

theorem BinaryFormat.proper_shortest (f : BinaryFormat) (tie : DecimalTie) {magnitude : Nat}
    (h : magnitude ≠ 0) : (f.shortest tie magnitude).Proper := by
  unfold shortest
  dsimp only
  split
  · exact ⟨List.cons_ne_nil _ _, List.forall_mem_singleton.mpr rfl, fun h => by cases h⟩
  · rename_i n k hf
    obtain ⟨i, -, hi⟩ := List.exists_of_findSome?_eq_some hf
    obtain ⟨m, hm, he⟩ := Option.map_eq_some_iff.mp hi
    cases he
    exact DecimalDigits.proper_stripped
      (ReadBack.nearest?_ne_zero (ReadBack.lower_inUnits_pos (ReadBack.lower_ofMagnitude_pos f h) _)
        hm) _

end SqlCompose
