import SqlCompose.Proofs.Number.Integer
import SqlCompose.Proofs.Wire.Bytes

/-!
# Columns of integers with sign

The three types of integers with sign differ in their width alone. The integers of a type are those
of its bytes (`contains_integer_iff`), and each of them is sent as these (`encodeInt_integer`).
-/

namespace SqlCompose.Wire

/-- The bytes of an integer of the type, if its integers have a sign. -/
def integerWidth? : ColumnType → Option Nat
  | .int2 => some 2
  | .int4 => some 4
  | .int8 => some 8
  | _ => none

theorem encodeInRange_eq_ok_iff {range : IntegerRange} {count : Nat} {n : Int} {bytes : Bytes} :
    encodeInRange range count n = .ok bytes ↔ range.contains n = true ∧ bytes = ofInt count n := by
  constructor
  · intro h
    unfold encodeInRange at h
    split at h
    · cases h
    split at h
    · cases h
    · rename_i hl hu
      cases h
      exact ⟨IntegerRange.contains_iff.mpr ⟨Int.not_lt.mp hl, Int.not_lt.mp hu⟩, rfl⟩
  · rintro ⟨hc, rfl⟩
    obtain ⟨hl, hu⟩ := IntegerRange.contains_iff.mp hc
    unfold encodeInRange
    rw [if_neg (Int.not_lt.mpr hl), if_neg (Int.not_lt.mpr hu)]

section Width

variable {type : ColumnType} {width : Nat} (h : integerWidth? type = some width)
include h

theorem integerWidth?_cases :
    (type = .int2 ∧ width = 2) ∨ (type = .int4 ∧ width = 4) ∨ (type = .int8 ∧ width = 8) := by
  cases type <;> cases h
  · exact .inl ⟨rfl, rfl⟩
  · exact .inr (.inl ⟨rfl, rfl⟩)
  · exact .inr (.inr ⟨rfl, rfl⟩)

theorem decoder?_integer : decoder? type = some (decodeInt? width) := by
  rcases integerWidth?_cases h with ⟨rfl, rfl⟩ | ⟨rfl, rfl⟩ | ⟨rfl, rfl⟩ <;> rfl

/-- No type is wider than eight bytes. -/
theorem pow_width_le : Nat.pow 256 width ≤ 0x10000000000000000 := by
  rcases integerWidth?_cases h with ⟨-, rfl⟩ | ⟨-, rfl⟩ | ⟨-, rfl⟩ <;> decide

/-- The integers of the type are those of its bytes, zero among them. -/
theorem contains_integer_iff {n : Int} : (IntegerRange.signed (8 * width)).contains n = true ↔
    -(Nat.pow 256 width : Int) ≤ 2 * n ∧ 2 * n < Nat.pow 256 width := by
  rw [IntegerRange.contains_iff]
  rcases integerWidth?_cases h with ⟨-, rfl⟩ | ⟨-, rfl⟩ | ⟨-, rfl⟩
  · show -(0x8000 : Int) ≤ n ∧ n ≤ (0x7fff : Int) ↔ -(0x10000 : Int) ≤ _ ∧ _ < (0x10000 : Int)
    omega
  · show -(0x80000000 : Int) ≤ n ∧ n ≤ (0x7fffffff : Int) ↔
      -(0x100000000 : Int) ≤ _ ∧ _ < (0x100000000 : Int)
    omega
  · show -(0x8000000000000000 : Int) ≤ n ∧ n ≤ (0x7fffffffffffffff : Int) ↔
      -(0x10000000000000000 : Int) ≤ _ ∧ _ < (0x10000000000000000 : Int)
    omega

theorem zero_inRange : (IntegerRange.signed (8 * width)).least ≤ 0 ∧
    0 ≤ (IntegerRange.signed (8 * width)).greatest := by
  rw [← IntegerRange.contains_iff, contains_integer_iff h]
  have hp : 0 < Nat.pow 256 width := Nat.pow_pos (by decide)
  omega

theorem encodeInt_integer {n : Int} (hn : (IntegerRange.signed (8 * width)).contains n = true) :
    encodeInt n type = .ok (ofInt width n) := by
  rcases integerWidth?_cases h with ⟨rfl, rfl⟩ | ⟨rfl, rfl⟩ | ⟨rfl, rfl⟩
  · exact encodeInRange_eq_ok_iff.mpr ⟨hn, rfl⟩
  · exact encodeInRange_eq_ok_iff.mpr ⟨hn, rfl⟩
  -- Eight bytes hold whatever is an integer of 64 bits, so there is no range to check.
  · rfl

/-- What is read from as many bytes as the type has is one of its integers. -/
theorem contains_toInt {bytes : Bytes} (hl : bytes.length = width) :
    (IntegerRange.signed (8 * width)).contains (toInt bytes) = true := by
  refine (contains_integer_iff h).mpr (toInt_bounds ?_ hl)
  rcases integerWidth?_cases h with ⟨-, rfl⟩ | ⟨-, rfl⟩ | ⟨-, rfl⟩ <;> decide

theorem decodeInt?_ofInt {n : Int} (hn : (IntegerRange.signed (8 * width)).contains n = true) :
    decodeInt? width (ofInt width n) = some (.ofInt n) := by
  obtain ⟨hl, hu⟩ := (contains_integer_iff h).mp hn
  unfold decodeInt?
  rw [exactly?_eq_some_iff.mpr ⟨rfl, length_ofInt width n⟩, Option.map_some, toInt_ofInt hl hu]

end Width

end SqlCompose.Wire
