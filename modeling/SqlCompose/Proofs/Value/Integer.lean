import SqlCompose.Proofs.Number.Integer
import SqlCompose.Proofs.Number.WideInteger
import SqlCompose.Proofs.Wire.WriteBack

/-!
# Values of JSON integers

An integer of 64 bits with sign is a value that denotes it and is written as it. A greater one
becomes the nearest binary number, which is a multiple of 2048, and is written with the shortest
digits of that, which are a multiple of a thousand. So an integer that JSON keeps may become one
number and be written as another (`Value.ofJson_integer_exact_iff`).
-/

namespace SqlCompose

/-! ## Binary numbers -/

namespace Binary64

/-- The number is finite and is the integer. -/
def Denotes (x : Binary64) (n : Int) : Prop :=
  x.isFinite = true ∧
    let number := BinaryFormat.double.parts x.magnitude
    let quotient := scaleByTwo number.1 1 number.2
    (if x.isNegative then -(quotient.1 : Int) else quotient.1) = n * quotient.2

instance (x : Binary64) (n : Int) : Decidable (x.Denotes n) := inferInstanceAs (Decidable (_ ∧ _))

variable {x : Binary64}

theorem denotes_wide {q : Nat} (h : 0x10000000000000 ≤ q) (h' : q ≤ 0x20000000000000)
    (hs : x.isNegative = false) (hm : x.magnitude = BinaryFormat.wide q) {n : Int} :
    x.Denotes n ↔ n = (2048 * q : Nat) := by
  have hf : x.isFinite = true := by
    have hu : BinaryFormat.double.unit = 0x10000000000000 := rfl
    have hi : BinaryFormat.double.infinity = 0x7ff0000000000000 := rfl
    unfold isFinite BinaryFormat.wide at *
    rw [hm, decide_eq_true_iff]
    omega
  unfold Denotes
  dsimp only
  rw [hm, hs, BinaryFormat.quotient_wide h h', and_iff_right hf]
  show ((2048 * q : Nat) : Int) = n * 1 ↔ _
  omega

/-- The text of a number that is neither negative nor zero. -/
theorem positionalText_of_pos (hs : x.isNegative = false) (hz : x.magnitude ≠ 0)
    (hf : x.isFinite = true) : x.positionalText =
      String.ofList ((BinaryFormat.double.shortest .up x.magnitude).positional []) := by
  have hi : x.magnitude < BinaryFormat.double.infinity := by simpa [isFinite] using hf
  have hu : x.isUndefined = false := by simp [isUndefined]; omega
  have hn : x.isInfinite = false := by simp [isInfinite]; omega
  unfold positionalText
  dsimp only
  rw [hs, hu, hn, if_neg hz]
  rfl

/-- An integer that needs all of 64 bits is near a number that is written as a multiple of a
thousand. -/
theorem exists_ofInt_wide {n : Nat} (h : 0x8000000000000000 ≤ n) (h' : n < 0x10000000000000000) :
    ∃ value written : Nat, (∀ m : Int, (ofInt n).Denotes m ↔ m = value) ∧
      (ofInt n).positionalText = decimalText written ∧
      (2048 ∣ value ∧ n ≤ value + 1024 ∧ value ≤ n + 1024) ∧
      (1000 ∣ written ∧ value ≤ written + 1024 ∧ written ≤ value + 1024) ∧
      (written = value ↔ 1000 ∣ value ∧ value % 10000 ≠ 1000 ∧ value % 10000 ≠ 9000) := by
  obtain ⟨hs, hm⟩ := ofInt_wide h h'
  obtain ⟨hl, hu⟩ := roundQuotient_near n (by decide : 0 < 0x800)
  have hf : (ofInt n).isFinite = true := isFinite_ofInt (by omega) (by omega)
  generalize roundQuotient n 0x800 = q at hm hl hu
  have hq : 0x10000000000000 ≤ q := by omega
  have hq' : q ≤ 0x20000000000000 := by omega
  obtain ⟨k, ht, hd, hk, hk', he⟩ := BinaryFormat.exists_text_wide hq hq'
  have hz : (ofInt n).magnitude ≠ 0 := by
    rw [hm]
    omega
  refine ⟨2048 * q, k, fun m => denotes_wide hq hq' hs hm, ?_, ⟨⟨q, rfl⟩, by omega, by omega⟩,
    ⟨hd, hk, hk'⟩, he⟩
  rw [positionalText_of_pos hs hz hf, hm]
  exact congrArg String.ofList ht

end Binary64

/-! ## Values -/

namespace Value

/-- The value is a number, and this integer. -/
def Denotes : Value → Int → Prop
  | int i, n => i.toInt = n
  | float x, n => x.Denotes n
  | _, _ => False

/-- The integer is what the value spells as SQL and in columns of text. -/
structure WrittenAs (v : Value) (n : Int) : Prop where
  literal : ∀ naming, Spells (v.literal naming).toList n
  encoded : ∀ type, type.isText = true →
    ∃ s, Wire.encode type v = .ok (some (Wire.ofText s)) ∧ Spells s.toList n

variable {v : Value} {n m : Int}

theorem WrittenAs.unique (hn : v.WrittenAs n) (hm : v.WrittenAs m) : n = m :=
  (hn.literal ⟨.snake, .snake⟩).unique (hm.literal ⟨.snake, .snake⟩)

theorem WrittenAs.iff_eq (hn : v.WrittenAs n) : v.WrittenAs m ↔ m = n :=
  ⟨fun hm => hm.unique hn, fun hm => hm ▸ hn⟩

theorem writtenAs_of_text {s : String} (hs : Spells s.toList n)
    (hl : ∀ naming, v.literal naming = s)
    (he : ∀ type, type.isText = true → Wire.encode type v = .ok (some (Wire.ofText s))) :
    v.WrittenAs n :=
  ⟨fun naming => by rw [hl]; exact hs, fun type ht => ⟨s, he type ht, hs⟩⟩

theorem spells_decimalText (n : Int) : Spells (decimalText n).toList n := by
  unfold decimalText
  rw [String.toList_ofList]
  exact spells_decimalDigits n

theorem writtenAs_int (i : Int64) : (int i).WrittenAs i.toInt :=
  writtenAs_of_text (spells_decimalText i.toInt) (fun _ => rfl) fun type ht => by
    cases type <;> first | rfl | cases ht

theorem writtenAs_float {x : Binary64} (h : x.positionalText = decimalText n) :
    (float x).WrittenAs n :=
  writtenAs_of_text (spells_decimalText n) (fun _ => h) fun type ht => by
    rw [← h]
    cases type <;> first | rfl | cases ht

/-- Which JSON integers keep their value. One that fits 64 bits with sign is a value that is just
it, and is written so. A greater one becomes a multiple of 2048 that is 1024 away at most, and this
is written as a multiple of a thousand that is 1024 away at most. So the value denotes the integer
if that is a multiple of 2048, and it is also written as the integer only if that is a multiple of a
thousand as well and no multiple of ten thousand is a thousand away. -/
theorem ofJson_integer_exact_iff
    (h : -0x8000000000000000 ≤ n ∧ n < 0x10000000000000000) :
    ∃ value written : Int, (∀ m, (ofJson (.number (.integer n h))).Denotes m ↔ m = value) ∧
      (∀ m, (ofJson (.number (.integer n h))).WrittenAs m ↔ m = written) ∧
      (n < 0x8000000000000000 → value = n ∧ written = n) ∧
      (0x8000000000000000 ≤ n → (2048 ∣ value ∧ n ≤ value + 1024 ∧ value ≤ n + 1024) ∧
        1000 ∣ written ∧ value ≤ written + 1024 ∧ written ≤ value + 1024) ∧
      (value = n ↔ n < 0x8000000000000000 ∨ 2048 ∣ n) ∧
      (value = n ∧ written = n ↔ n < 0x8000000000000000 ∨
        256000 ∣ n ∧ n % 10000 ≠ 1000 ∧ n % 10000 ≠ 9000) := by
  by_cases hn : n < 0x8000000000000000
  · obtain ⟨i, hi, rfl⟩ : ∃ i : Int64, ofJson (.number (.integer n h)) = int i ∧ i.toInt = n :=
      ⟨.ofIntLE n h.1 (Int.le_sub_one_of_lt hn), by simp [ofJson, JsonNumber.toInt64?, hn],
        Int64.toInt_ofIntLE⟩
    rw [hi]
    refine ⟨i.toInt, i.toInt, fun m => eq_comm, fun m => (writtenAs_int i).iff_eq,
      fun _ => ⟨rfl, rfl⟩, fun hg => ?_, ?_, ?_⟩
    · exact absurd hn (Int.not_lt.mpr hg)
    · exact iff_of_true rfl (.inl hn)
    · exact iff_of_true ⟨rfl, rfl⟩ (.inl hn)
  · have hv : ofJson (.number (.integer n h)) = float (.ofInt n) := by
      simp [ofJson, JsonNumber.toInt64?, hn]
    obtain ⟨k, rfl⟩ := Int.eq_ofNat_of_zero_le (by omega : 0 ≤ n)
    obtain ⟨value, written, hd, ht, hr, hs, he⟩ :=
      Binary64.exists_ofInt_wide (n := k) (by omega) (by omega)
    rw [hv]
    refine ⟨value, written, hd, fun m => (writtenAs_float ht).iff_eq, fun hl => absurd hl hn,
      fun _ => ?_, ?_, ?_⟩
    · omega
    · omega
    · constructor
      · rintro ⟨hvk, hwk⟩
        obtain ⟨h₁₀₀₀, h₁, h₉⟩ := he.mp (by omega)
        exact .inr (by omega)
      · rintro (hl | ⟨hk, h₁, h₉⟩)
        · exact absurd hl hn
        · have hvk : value = k := by omega
          have hwk : written = value := he.mpr (by omega)
          exact ⟨by omega, by omega⟩

/-- Ten to the power of 19 is a value that denotes it and is written as it. -/
theorem ofJson_tenQuintillions :
    let j := Json.number (.integer 10000000000000000000 (by decide))
    (ofJson j).Denotes 10000000000000000000 ∧ (ofJson j).WrittenAs 10000000000000000000 := by
  intro j
  obtain ⟨value, written, hd, hw, -, -, -, he⟩ :=
    ofJson_integer_exact_iff (n := 10000000000000000000) (by decide)
  obtain ⟨rfl, rfl⟩ := he.mpr (.inr (by decide))
  exact ⟨(hd _).mpr rfl, (hw _).mpr rfl⟩

/-- The second integer that does not fit 64 bits with sign is a value that denotes the first, and it
is written as a third. -/
theorem ofJson_not_exact :
    let v := ofJson (.number (.integer 9223372036854775809 (by decide)))
    v.Denotes 9223372036854775808 ∧ ¬ v.Denotes 9223372036854775809 ∧
      v.WrittenAs 9223372036854776000 ∧ ¬ v.WrittenAs 9223372036854775809 := by
  intro v
  have hd : (Binary64.ofInt 9223372036854775809).Denotes 9223372036854775808 := by decide +kernel
  have hn : ¬ (Binary64.ofInt 9223372036854775809).Denotes 9223372036854775809 := by
    decide +kernel
  have hw : v.WrittenAs 9223372036854776000 := writtenAs_float (by decide +kernel)
  exact ⟨hd, hn, hw, fun hm => absurd (hm.unique hw) (by decide)⟩

end Value

end SqlCompose
