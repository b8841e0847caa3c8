import SqlCompose.Number.Binary

/-!
# Shortest digits

The fewest decimal digits that read back as a given binary number, and of those the digits nearest
to it. A number reads back from every decimal in the interval that rounds to it, whose ends belong
to it if its significand is even. On the grid of decimals with `n` digits it is enough to try the
two neighbours of the number.
-/

namespace SqlCompose

/-- Digits after the decimal point times ten to the power `point`: `⟨['1', '5'], 1⟩` is 1.5. -/
structure DecimalDigits where
  digits : List Char
  point : Int
  deriving DecidableEq, Repr

/-- Which of two equally near decimals is taken. -/
inductive DecimalTie where
  | up
  | even
  deriving DecidableEq, Repr

/-- Numerator and denominator of `num / den` times ten to the power `e`. -/
def scaleByTen (num den : Nat) (e : Int) : Nat × Nat :=
  if 0 ≤ e then (num * Nat.pow 10 e.toNat, den) else (num, den * Nat.pow 10 (-e).toNat)

/-- The power of ten just above `num / den`. -/
def decimalPoint (num den : Nat) : Int :=
  let shift := den.log2 + 1
  (Nat.toDigits 10 (num * Nat.pow 10 shift / den)).length - (shift : Int)

/-- A number `value / den` and the interval of those that read back as it. -/
structure ReadBack where
  value : Nat
  lower : Nat
  upper : Nat
  den : Nat
  closed : Bool

namespace ReadBack

/-- The interval of a finite magnitude that is not zero. Below a power of two the numbers lie
twice as dense, so the interval ends at a quarter of the step instead of half of it. -/
def ofMagnitude (f : BinaryFormat) (magnitude : Nat) : ReadBack :=
  let (m, e) := f.parts magnitude
  let dense := magnitude % f.unit = 0 ∧ f.unit < magnitude
  let (unit, den) := scaleByTwo 1 1 (e - 2)
  { value := 4 * m * unit
    lower := (4 * m - if dense then 1 else 2) * unit
    upper := (4 * m + 2) * unit
    den := den
    closed := m % 2 == 0 }

/-- Does the decimal `n / scale` read back? Both sides are given over the denominator `den`. -/
def holds (r : ReadBack) (n scale : Nat) : Bool :=
  let x := n * r.den
  if r.closed then decide (r.lower * scale ≤ x) && decide (x ≤ r.upper * scale)
  else decide (r.lower * scale < x) && decide (x < r.upper * scale)

/-- The same interval in units of ten to the power `e`. -/
def inUnits (r : ReadBack) (e : Int) : ReadBack :=
  let (up, down) := scaleByTen 1 1 (-e)
  { r with value := r.value * up, lower := r.lower * up, upper := r.upper * up, den := r.den * down }

/-- The integer nearest to the value among those that read back next to it. -/
def nearest? (tie : DecimalTie) (r : ReadBack) : Option Nat :=
  let below := r.value / r.den
  let above := below + 1
  match r.holds below 1, r.holds above 1 with
  | false, false => none
  | true, false => some below
  | false, true => some above
  | true, true =>
    let toBelow := r.value - below * r.den
    let toAbove := above * r.den - r.value
    if toBelow < toAbove then some below
    else if toAbove < toBelow then some above
    else match tie with
      | .up => some above
      | .even => some (if below % 2 = 0 then below else above)

end ReadBack

/-- Decimals of seventeen digits tell all numbers of 64 bits apart. -/
def maxDigits : Nat := 17

/-- The shortest digits of a finite magnitude that is not zero. -/
def BinaryFormat.shortest (f : BinaryFormat) (tie : DecimalTie) (magnitude : Nat) :
    DecimalDigits :=
  let r := ReadBack.ofMagnitude f magnitude
  let point := decimalPoint r.value r.den
  let found := (List.range maxDigits).findSome? fun k =>
    (r.inUnits (point - (k + 1 : Nat))).nearest? tie |>.map fun n => (n, k + 1)
  match found with
  | none => ⟨['0'], 0⟩
  | some (n, k) =>
    let digits := Nat.toDigits 10 n
    ⟨(digits.reverse.dropWhile (· == '0')).reverse, point + digits.length - k⟩

namespace DecimalDigits

/-- The digits with a point where it falls and zeros where digits are missing. An integer gets
`fraction` after its digits. -/
def positional (d : DecimalDigits) (fraction : List Char) : List Char :=
  let count : Int := d.digits.length
  if d.point ≤ 0 then '0' :: '.' :: List.replicate (-d.point).toNat '0' ++ d.digits
  else if count ≤ d.point then d.digits ++ List.replicate (d.point - count).toNat '0' ++ fraction
  else d.digits.take d.point.toNat ++ '.' :: d.digits.drop d.point.toNat

end DecimalDigits

/-- The text of a number without exponent, with as few digits as read back. -/
def Binary64.positionalText (x : Binary64) : String :=
  let sign := if x.isNegative then ['-'] else []
  if x.isUndefined then "NaN"
  else if x.isInfinite then String.ofList (sign ++ ['i', 'n', 'f'])
  else if x.magnitude = 0 then String.ofList (sign ++ ['0'])
  else String.ofList (sign ++ (BinaryFormat.double.shortest .up x.magnitude).positional [])

end SqlCompose
