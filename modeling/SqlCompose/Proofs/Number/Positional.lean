import Mathlib.Data.Nat.Digits.Defs
import SqlCompose.Proofs.Lists
import SqlCompose.Proofs.Number.Shortest

/-!
# Shortest digits of large integers

The grids of decimals are tried from the coarsest on, so the shortest digits are those of the first
grid that has a decimal which reads back (`BinaryFormat.exists_shortest`). Where this is a grid of
integers, the digits with zeros behind them are those of an integer (`positional_stripped`).
-/

namespace SqlCompose

/-! ## Digits and zeros -/

/-- Zeros behind the digits of a number multiply it. -/
theorem toDigits_append_zeros {n : Nat} (h : n ≠ 0) (e : Nat) :
    Nat.toDigits 10 n ++ List.replicate e '0' = Nat.toDigits 10 (n * 10 ^ e) := by
  induction e with
  | zero => rw [List.replicate_zero, List.append_nil, Nat.pow_zero, Nat.mul_one]
  | succ e ih =>
    have hp : 0 < n * 10 ^ e := Nat.mul_pos (Nat.pos_of_ne_zero h) (Nat.pow_pos (by decide))
    have hz := Nat.toDigits_append_toDigits (d := 0) (by decide : 1 < 10) hp (by decide)
    rw [List.replicate_succ', ← List.append_assoc, ih, Nat.pow_succ, ← Nat.mul_assoc]
    rwa [Nat.add_zero, Nat.mul_comm 10] at hz

/-- What is stripped of the end of digits comes back as zeros. -/
theorem stripped_append_zeros (ds : List Char) (e : Nat) :
    ds.rdropWhile (· == '0') ++
        List.replicate (e + ds.length - (ds.rdropWhile (· == '0')).length) '0' =
      ds ++ List.replicate e '0' := by
  have hd : ds.rdropWhile (· == '0') ++ ds.rtakeWhile (· == '0') = ds :=
    List.rdropWhile_append_rtakeWhile
  have ht : ds.rtakeWhile (· == '0') = List.replicate (ds.rtakeWhile (· == '0')).length '0' :=
    List.eq_replicate_iff.mpr
      ⟨rfl, fun c hc => eq_of_beq (List.mem_rtakeWhile_imp (p := (· == '0')) hc)⟩
  have hl := congrArg List.length hd
  rw [List.length_append] at hl
  conv_rhs => rw [← hd, ht, List.append_assoc, List.replicate_append_replicate]
  congr 2
  omega

/-- The stripped digits of an integer in front of as many further places as it is multiplied by. -/
theorem DecimalDigits.positional_stripped {n : Nat} (h : n ≠ 0) (e : Nat) :
    positional ⟨(Nat.toDigits 10 n).rdropWhile (· == '0'), (e : Int) + (Nat.toDigits 10 n).length⟩
      [] = Nat.toDigits 10 (n * 10 ^ e) := by
  have hn : 0 < (Nat.toDigits 10 n).length := Nat.length_toDigits_pos
  have hs : ((Nat.toDigits 10 n).rdropWhile (· == '0')).length ≤ (Nat.toDigits 10 n).length :=
    List.IsPrefix.length_le (List.rdropWhile_prefix _ _)
  have hz : ((e : Int) + (Nat.toDigits 10 n).length -
      ((Nat.toDigits 10 n).rdropWhile (· == '0')).length).toNat =
        e + (Nat.toDigits 10 n).length - ((Nat.toDigits 10 n).rdropWhile (· == '0')).length := by
    omega
  unfold positional
  dsimp only
  rw [if_neg (by omega), if_pos (by omega), List.append_nil, hz, stripped_append_zeros,
    toDigits_append_zeros h]

/-! ## The first grid -/

/-- If a grid has a decimal that reads back, the shortest digits are those of the nearest such
decimal on the first of the grids that have one. -/
theorem BinaryFormat.exists_shortest (f : BinaryFormat) (tie : DecimalTie) {magnitude i : Nat}
    {r : ReadBack} (hr : ReadBack.ofMagnitude f magnitude = r) {point : Int}
    (hp : decimalPoint r.value r.den = point) (hi : i < maxDigits)
    (hh : ((r.inUnits (point - (i + 1 : Nat))).nearest? tie).isSome) :
    ∃ k ≤ i, ∃ n, (r.inUnits (point - (k + 1 : Nat))).nearest? tie = some n ∧
      (∀ j < k, (r.inUnits (point - (j + 1 : Nat))).nearest? tie = none) ∧
      f.shortest tie magnitude = ⟨(Nat.toDigits 10 n).rdropWhile (· == '0'),
        point + (Nat.toDigits 10 n).length - (k + 1 : Nat)⟩ := by
  obtain ⟨m, hm⟩ := Option.isSome_iff_exists.mp hh
  obtain ⟨k, hk, b, hf, hb, hn⟩ := exists_first_of_findSome?_range
    (f := fun k => ((r.inUnits (point - (k + 1 : Nat))).nearest? tie).map fun n => (n, k + 1))
    hi (by rw [hm]; rfl)
  obtain ⟨n, hn', rfl⟩ := Option.map_eq_some_iff.mp hb
  refine ⟨k, hk, n, hn', fun j hj => Option.map_eq_none_iff.mp (hn j hj), ?_⟩
  unfold shortest
  rw [hr]
  dsimp only
  rw [hp, hf]
  rfl

end SqlCompose
