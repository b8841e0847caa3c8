/-!
# Bytes of integers

Integers as bytes, the greatest first, with negative ones in two's complement.
-/

namespace SqlCompose.Wire

/-- Bytes as they are sent. -/
abbrev Bytes := List UInt8

/-- The last `count` bytes of a natural number. -/
def ofNat : Nat → Nat → Bytes
  | 0, _ => []
  | count + 1, n => ofNat count (n / 256) ++ [UInt8.ofNat n]

/-- The natural number of bytes. -/
def toNat (bytes : Bytes) : Nat := bytes.foldl (fun n b => n * 256 + b.toNat) 0

/-- The last `count` bytes of an integer. -/
def ofInt (count : Nat) (n : Int) : Bytes := ofNat count (n % Nat.pow 256 count).toNat

/-- The integer of bytes. -/
def toInt (bytes : Bytes) : Int := (toNat bytes : Int).bmod (Nat.pow 256 bytes.length)

@[simp] theorem length_ofNat (count n : Nat) : (ofNat count n).length = count := by
  induction count generalizing n with
  | zero => rfl
  | succ count ih => simp [ofNat, ih]

@[simp] theorem length_ofInt (count : Nat) (n : Int) : (ofInt count n).length = count :=
  length_ofNat _ _

theorem toNat_append_one (bytes : Bytes) (b : UInt8) :
    toNat (bytes ++ [b]) = toNat bytes * 256 + b.toNat := by
  simp [toNat]

theorem toNat_ofNat (count n : Nat) : toNat (ofNat count n) = n % Nat.pow 256 count := by
  induction count generalizing n with
  | zero => simp [ofNat, toNat, Nat.mod_one]
  | succ count ih =>
    rw [ofNat, toNat_append_one, ih, Nat.pow_eq, Nat.pow_eq, Nat.pow_succ', Nat.mod_mul]
    simp only [UInt8.toNat_ofNat']
    omega

/-- The bytes of a text in UTF-8. -/
def ofText (s : String) : Bytes := s.toByteArray.data.toList

/-- The text of bytes in UTF-8. -/
def toText? (bytes : Bytes) : Option String := String.fromUTF8? ⟨bytes.toArray⟩

end SqlCompose.Wire
