/-!
# Binary floating point

Formats of binary floating point, with rounding of a quotient to the nearest number and ties to
the even one. A magnitude is the bit pattern of a number without its sign: magnitudes are ordered
as the numbers are, and the next magnitude is the next number.
-/

namespace SqlCompose

/-- The quotient rounded to the nearest integer, a tie to the even one. -/
def roundQuotient (num den : Nat) : Nat :=
  let q := num / den
  let r := num % den
  if den < 2 * r ∨ (2 * r = den ∧ q % 2 = 1) then q + 1 else q

/-- Numerator and denominator of `num / den` times two to the power `e`. -/
def scaleByTwo (num den : Nat) (e : Int) : Nat × Nat :=
  if 0 ≤ e then (num * Nat.pow 2 e.toNat, den) else (num, den * Nat.pow 2 (-e).toNat)

/-- A format with a fraction of `fractionBits` bits below an exponent of `exponentBits` bits. -/
structure BinaryFormat where
  fractionBits : Nat
  exponentBits : Nat

namespace BinaryFormat

/-- The format of 32 bits. -/
def single : BinaryFormat := ⟨23, 8⟩

/-- The format of 64 bits. -/
def double : BinaryFormat := ⟨52, 11⟩

/-- The exponent of the smallest positive number. -/
def minExponent (f : BinaryFormat) : Int :=
  2 - Nat.pow 2 (f.exponentBits - 1) - f.fractionBits

/-- One in the exponent field of a magnitude. -/
def unit (f : BinaryFormat) : Nat := Nat.pow 2 f.fractionBits

/-- The magnitude of infinity. Those above it are no numbers. -/
def infinity (f : BinaryFormat) : Nat :=
  (Nat.pow 2 f.exponentBits - 1) * f.unit

/-- The magnitude of the sign bit. -/
def signBit (f : BinaryFormat) : Nat :=
  Nat.pow 2 f.exponentBits * f.unit

/-- Significand and exponent of a finite magnitude: the number is significand times two to the
power of the exponent. -/
def parts (f : BinaryFormat) (magnitude : Nat) : Nat × Int :=
  let field := magnitude / f.unit
  let fraction := magnitude % f.unit
  if field = 0 then (fraction, f.minExponent)
  else (f.unit + fraction, f.minExponent + (field - 1 : Nat))

/-- The magnitude of the number nearest to `num / den`, infinity if that is beyond the greatest. -/
def ofQuotient (f : BinaryFormat) (num den : Nat) : Nat :=
  if num = 0 then 0
  else
    let top : Int := num.log2 - den.log2
    let (n, d) := scaleByTwo num den (-top)
    let exponent := max f.minExponent ((if d ≤ n then top else top - 1) - f.fractionBits)
    let (n, d) := scaleByTwo num den (-exponent)
    let magnitude := (exponent - f.minExponent).toNat * f.unit + roundQuotient n d
    min magnitude f.infinity

end BinaryFormat

/-- A binary floating point number of 32 bits. -/
structure Binary32 where
  bits : UInt32
  deriving DecidableEq, Repr

/-- A binary floating point number of 64 bits. -/
structure Binary64 where
  bits : UInt64
  deriving DecidableEq, Repr

namespace Binary64

/-- Is the sign bit set? -/
def isNegative (x : Binary64) : Bool := decide (BinaryFormat.double.signBit ≤ x.bits.toNat)

/-- The bits without the sign. -/
def magnitude (x : Binary64) : Nat := x.bits.toNat % BinaryFormat.double.signBit

/-- Neither infinite nor undefined. -/
def isFinite (x : Binary64) : Bool := decide (x.magnitude < BinaryFormat.double.infinity)

/-- Infinite, with either sign. -/
def isInfinite (x : Binary64) : Bool := x.magnitude == BinaryFormat.double.infinity

/-- Undefined. -/
def isUndefined (x : Binary64) : Bool := decide (BinaryFormat.double.infinity < x.magnitude)

/-- The number of a sign and a magnitude. -/
def ofMagnitude (negative : Bool) (magnitude : Nat) : Binary64 :=
  ⟨UInt64.ofNat (magnitude + if negative then BinaryFormat.double.signBit else 0)⟩

/-- The number nearest to a signed quotient. -/
def ofQuotient (negative : Bool) (num den : Nat) : Binary64 :=
  ofMagnitude negative (BinaryFormat.double.ofQuotient num den)

/-- The number nearest to an integer. -/
def ofInt (n : Int) : Binary64 :=
  ofQuotient (decide (n < 0)) n.natAbs 1

end Binary64

namespace Binary32

/-- Is the sign bit set? -/
def isNegative (x : Binary32) : Bool := decide (BinaryFormat.single.signBit ≤ x.bits.toNat)

/-- The bits without the sign. -/
def magnitude (x : Binary32) : Nat := x.bits.toNat % BinaryFormat.single.signBit

/-- The number of a sign and a magnitude. -/
def ofMagnitude (negative : Bool) (magnitude : Nat) : Binary32 :=
  ⟨UInt32.ofNat (magnitude + if negative then BinaryFormat.single.signBit else 0)⟩

/-- The number nearest to an integer. -/
def ofInt (n : Int) : Binary32 :=
  ofMagnitude (decide (n < 0)) (BinaryFormat.single.ofQuotient n.natAbs 1)

end Binary32

/-- The magnitude of the same number in another format, rounded if it does not fit. What is
undefined stays so: it keeps the leading bits of its fraction, the first of them set. -/
def BinaryFormat.convert (source target : BinaryFormat) (magnitude : Nat) : Nat :=
  if magnitude < source.infinity then
    let (significand, exponent) := source.parts magnitude
    let (n, d) := scaleByTwo significand 1 exponent
    target.ofQuotient n d
  else if magnitude = source.infinity then target.infinity
  else
    let fraction := (magnitude - source.infinity) * target.unit / source.unit
    target.infinity + (fraction ||| target.unit / 2)

/-- The number in 32 bits, rounded to the nearest. -/
def Binary64.narrow (x : Binary64) : Binary32 :=
  .ofMagnitude x.isNegative (BinaryFormat.double.convert .single x.magnitude)

/-- The number in 64 bits. -/
def Binary32.widen (x : Binary32) : Binary64 :=
  .ofMagnitude x.isNegative (BinaryFormat.single.convert .double x.magnitude)

end SqlCompose
