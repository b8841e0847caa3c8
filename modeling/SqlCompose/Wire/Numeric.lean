import SqlCompose.Number.Integer
import SqlCompose.Wire.Bytes

/-!
# Decimals of arbitrary precision

A numeric column sends groups of four decimal digits. They are summed up in a decimal whose
coefficient has 96 bits, with up to 28 digits behind the point: a sum that does not fit gives up
digits behind the point, rounding to the nearest with ties to even, and fails if there are none.
Groups that are missing before the point count as zeros, as long as their power of ten is a decimal.
The result is brought to the number of digits of the column, rounding a half away from zero, or
with as many zeros as the coefficient can take.
-/

namespace SqlCompose.Wire

/-- A decimal: the coefficient with the last `scale` digits behind the point. -/
structure Decimal96 where
  coefficient : Nat
  scale : Nat
  deriving DecidableEq, Repr

namespace Decimal96

/-- The bound of the coefficients. -/
def bound : Nat := Nat.pow 2 96

/-- The greatest number of digits behind the point. -/
def maxScale : Nat := 28

/-- The coefficient without its last `count` digits, rounded, a half to the even one. -/
def dropEven (count coefficient : Nat) : Nat :=
  let unit := Nat.pow 10 count
  let q := coefficient / unit
  let r := coefficient % unit
  if unit < 2 * r ∨ (2 * r = unit ∧ q % 2 = 1) then q + 1 else q

/-- The decimal with as few digits behind the point given up as needed. -/
def fit? (coefficient scale : Nat) : Option Decimal96 :=
  (List.range (scale + 1)).findSome? fun count =>
    let c := dropEven count coefficient
    if c < bound then some ⟨c, scale - count⟩ else none

/-- The sum of a decimal and `n` in the digit `place` behind the point. -/
def add? (d : Decimal96) (n place : Nat) : Option Decimal96 :=
  let scale := max d.scale place
  fit? (d.coefficient * Nat.pow 10 (scale - d.scale) + n * Nat.pow 10 (scale - place)) scale

/-- The product of a decimal without digits behind the point and ten to the power `n`, if that
power and the product are decimals. The power has to be one even if the decimal is zero. -/
def shift? (d : Decimal96) (n : Nat) : Option Decimal96 :=
  let unit := Nat.pow 10 n
  let c := d.coefficient * unit
  if unit < bound ∧ c < bound then some ⟨c, d.scale⟩ else none

/-- The decimal without its last `count` digits, a half rounded away from zero. -/
def shorten (d : Decimal96) (count : Nat) : Decimal96 :=
  let unit := Nat.pow 10 count
  let q := d.coefficient / unit
  ⟨if unit ≤ 2 * (d.coefficient % unit) then q + 1 else q, d.scale - count⟩

/-- The decimal with up to `count` zeros behind it, as many as fit. -/
def extend (d : Decimal96) : Nat → Decimal96
  | 0 => d
  | count + 1 =>
    if d.coefficient * 10 < bound then extend ⟨d.coefficient * 10, d.scale + 1⟩ count else d

/-- The decimal with `scale` digits behind the point, or as near to that as it gets. -/
def rescale (d : Decimal96) (scale : Nat) : Decimal96 :=
  let scale := min scale maxScale
  if scale < d.scale then d.shorten (d.scale - scale)
  else if d.coefficient = 0 then ⟨0, scale⟩
  else d.extend (scale - d.scale)

/-- The text of a decimal. -/
def text (negative : Bool) (d : Decimal96) : String :=
  let digits := Nat.toDigits 10 d.coefficient
  let digits := List.replicate (d.scale + 1 - digits.length) '0' ++ digits
  let whole := digits.take (digits.length - d.scale)
  let fraction := digits.drop (digits.length - d.scale)
  String.ofList ((if negative then ['-'] else []) ++ whole ++
    if fraction.isEmpty then [] else '.' :: fraction)

end Decimal96

open Decimal96

/-- The sum of groups before the point. -/
def addWhole? (d : Decimal96) (groups : List Nat) : Option Decimal96 :=
  groups.foldlM (fun d g => (d.shift? 4).bind (add? · g 0)) d

/-- The sum of a decimal and groups behind the point, of which the first ends in the digit `place`.
The group that begins behind the last digit decides how that is rounded. -/
def addFraction? (d : Decimal96) (place : Nat) : List Nat → Option Decimal96
  | [] => some d
  | g :: gs => do
    let d ←
      if place ≤ maxScale then d.add? g place
      else if place = maxScale + 4 ∧ 5000 ≤ g then d.add? 1 maxScale
      else some d
    addFraction? d (place + 4) gs

/-- The decimal of groups, of which the first counts ten thousand to the power `weight`. -/
def sumGroups? (weight : Int) (groups : List Nat) : Option Decimal96 := do
  let wholeCount := (weight + 1).toNat
  let whole ← addWhole? ⟨0, 0⟩ (groups.take wholeCount)
  let whole ← whole.shift? (4 * (wholeCount - groups.length))
  addFraction? whole (4 * ((-weight - 1).toNat + 1)) (groups.drop wholeCount)

/-- Fields of two bytes at the front of bytes, and what follows them. -/
def takeFields? : Nat → Bytes → Option (List Nat × Bytes)
  | 0, bytes => some ([], bytes)
  | count + 1, a :: b :: bytes =>
    (takeFields? count bytes).map fun (fields, rest) => (toNat [a, b] :: fields, rest)
  | _ + 1, _ => none

/-- The text of a numeric column. -/
def decodeNumeric? (bytes : Bytes) : Option String := do
  match ← takeFields? 4 bytes with
  | ([count, weight, sign, scale], rest) =>
    if sign / 0x4000 = 3 then none
    else
      let (groups, _) ← takeFields? count rest
      let d ← sumGroups? ((weight : Int).bmod 0x10000) groups
      return (d.rescale scale).text (sign == 0x4000)
  | _ => none

end SqlCompose.Wire
