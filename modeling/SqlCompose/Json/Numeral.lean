import SqlCompose.Json.Basic
import SqlCompose.Number.Integer

/-!
# Numerals of JSON

A numeral is an integer with an optional fraction and an optional exponent. Without both it is the
integer it spells, if that has 64 bits. Otherwise it is a binary number: as many of its digits as
fit in 64 bits are taken as one integer, that integer is rounded, and it is multiplied or divided
by a rounded power of ten, each step rounding to the nearest.
-/

namespace SqlCompose.Json

/-- A numeral as it is spelled. Fraction and exponent are empty if they are missing. -/
structure Numeral where
  negative : Bool
  whole : List Char
  fraction : List Char
  exponentNegative : Bool
  exponent : List Char
  deriving DecidableEq, Repr

/-- The digits at the front, and what follows them. -/
def takeDigits (s : List Char) : List Char × List Char :=
  (s.takeWhile Char.isDigit, s.dropWhile Char.isDigit)

theorem takeDigits_length_le (s : List Char) : (takeDigits s).2.length ≤ s.length := by
  simp only [takeDigits]
  induction s with
  | nil => simp
  | cons c s ih => simp only [List.dropWhile_cons]; split <;> simp_all; omega

theorem takeDigits_length_lt {s : List Char} (h : (takeDigits s).1 ≠ []) :
    (takeDigits s).2.length < s.length := by
  cases s with
  | nil => simp [takeDigits] at h
  | cons c s =>
    by_cases hc : c.isDigit = true
    · have := takeDigits_length_le s
      simp only [takeDigits] at this
      simp [takeDigits, hc]
      omega
    · simp [takeDigits, hc] at h

namespace Numeral

/-- The digits of an integer: a single zero, or digits that start with none. -/
def takeWhole (s : List Char) : Option (List Char × List Char) :=
  match takeDigits s with
  | ([], _) => none
  | ('0' :: _ :: _, _) => none
  | (ds, rest) => some (ds, rest)

/-- The fraction digits behind a point, none without a point. -/
def takeFraction : List Char → Option (List Char × List Char)
  | '.' :: s => match takeDigits s with
    | ([], _) => none
    | (ds, rest) => some (ds, rest)
  | s => some ([], s)

/-- The sign of an exponent. -/
def takeSign : List Char → Bool × List Char
  | '+' :: s => (false, s)
  | '-' :: s => (true, s)
  | s => (false, s)

/-- The exponent behind its letter with its sign, empty without the letter. -/
def takeExponent : List Char → Option (Bool × List Char × List Char)
  | c :: s =>
    if c = 'e' ∨ c = 'E' then
      let (negative, digits) := takeSign s
      match takeDigits digits with
      | ([], _) => none
      | (ds, rest) => some (negative, ds, rest)
    else some (false, [], c :: s)
  | [] => some (false, [], [])

/-- The numeral at the front of a text behind its sign, and what follows it. -/
def takeUnsigned (negative : Bool) (s : List Char) : Option (Numeral × List Char) := do
  let (whole, s) ← takeWhole s
  let (fraction, s) ← takeFraction s
  let (exponentNegative, exponent, s) ← takeExponent s
  return ({ negative, whole, fraction, exponentNegative, exponent }, s)

/-- The numeral at the front of a text, and what follows it. -/
def take : List Char → Option (Numeral × List Char)
  | '-' :: s => takeUnsigned true s
  | s => takeUnsigned false s

theorem length_of_takeWhole {s ds rest : List Char} (h : takeWhole s = some (ds, rest)) :
    rest.length < s.length := by
  have hl := @takeDigits_length_lt s
  simp only [takeWhole] at h
  split at h <;> simp_all

theorem length_of_takeFraction {s ds rest : List Char} (h : takeFraction s = some (ds, rest)) :
    rest.length ≤ s.length := by
  simp only [takeFraction] at h
  split at h
  · rename_i s
    have hl := takeDigits_length_le s
    split at h <;> simp_all
    omega
  · simp_all

theorem length_of_takeExponent {s ds rest : List Char} {b : Bool}
    (h : takeExponent s = some (b, ds, rest)) : rest.length ≤ s.length := by
  have hs : ∀ s, (takeSign s).2.length ≤ s.length := by
    intro s
    simp only [takeSign]
    split <;> simp
  cases s with
  | nil => simp [takeExponent] at h; simp [h]
  | cons c s =>
    simp only [takeExponent] at h
    split at h
    · have hd := takeDigits_length_le (takeSign s).2
      have := hs s
      split at h
      · simp at h
      · rename_i heq
        simp only [Option.some.injEq, Prod.mk.injEq] at h
        rw [heq] at hd
        simp only [List.length_cons]
        obtain ⟨_, _, rfl⟩ := h
        simp only at hd
        omega
    · simp_all

theorem length_of_takeUnsigned {b : Bool} {s rest : List Char} {n : Numeral}
    (h : takeUnsigned b s = some (n, rest)) : rest.length < s.length := by
  simp only [takeUnsigned, Option.bind_eq_bind, Option.bind_eq_some_iff, Option.pure_def,
    Option.some.injEq, Prod.mk.injEq, Prod.exists] at h
  obtain ⟨_, s₁, h₁, _, s₂, h₂, _, _, s₃, h₃, _, rfl⟩ := h
  have := length_of_takeWhole h₁
  have := length_of_takeFraction h₂
  have := length_of_takeExponent h₃
  omega

theorem length_of_take {s rest : List Char} {n : Numeral} (h : take s = some (n, rest)) :
    rest.length < s.length := by
  simp only [take] at h
  split at h
  · have := length_of_takeUnsigned h
    simp only [List.length_cons]
    omega
  · exact length_of_takeUnsigned h

/-- The greatest integer of 64 bits. -/
def maxSignificand : Nat := 0xffffffffffffffff

/-- The greatest exponent that is told from greater ones. -/
def maxExponent : Nat := 0x7fffffff

/-- The integer `n` continued with digits for as long as it has 64 bits, and the digits left. -/
def gather (n : Nat) : List Char → Nat × List Char
  | [] => (n, [])
  | c :: s =>
    let m := n * 10 + (digitValue? c).getD 0
    if m ≤ maxSignificand then gather m s else (n, c :: s)

/-- The greatest power of ten that a binary number of 64 bits can be near to. -/
def maxPower : Nat := 308

/-- The magnitude nearest to a power of ten. -/
def powerOfTen (n : Nat) : Nat := BinaryFormat.double.ofQuotient (Nat.pow 10 n) 1

/-- The product of two finite magnitudes, rounded. -/
def multiply (a b : Nat) : Nat :=
  let (m, e) := BinaryFormat.double.parts a
  let (n, d) := BinaryFormat.double.parts b
  let (num, den) := scaleByTwo (m * n) 1 (e + d)
  BinaryFormat.double.ofQuotient num den

/-- The quotient of two finite magnitudes, rounded. -/
def divide (a b : Nat) : Nat :=
  let (m, e) := BinaryFormat.double.parts a
  let (n, d) := BinaryFormat.double.parts b
  let (num, den) := scaleByTwo m n (e - d)
  BinaryFormat.double.ofQuotient num den

/-- A magnitude divided by ten to the power `n`, by the greatest power first. -/
def divideByPower (a n : Nat) : Nat :=
  if n ≤ maxPower then divide a (powerOfTen n)
  else if a = 0 then 0
  else divideByPower (divide a (powerOfTen maxPower)) (n - maxPower)
termination_by n
decreasing_by simp only [maxPower] at *; omega

/-- The magnitude of `significand` times ten to the power `exponent`, unless it is too great. -/
def scaled? (significand : Nat) (exponent : Int) : Option Nat :=
  let a := BinaryFormat.double.ofQuotient significand 1
  if exponent < 0 then some (divideByPower a exponent.natAbs)
  else if exponent.natAbs ≤ maxPower then
    let b := multiply a (powerOfTen exponent.natAbs)
    if b < BinaryFormat.double.infinity then some b else none
  else if a = 0 then some 0
  else none

/-- The magnitude of a numeral as a binary number, unless it is too great. -/
def magnitude? (n : Numeral) : Option Nat :=
  let (whole, restOfWhole) := gather 0 n.whole
  let (significand, restOfFraction) := gather whole n.fraction
  let point : Int := restOfWhole.length - (n.fraction.length - restOfFraction.length : Nat)
  let exponent := Nat.ofDigitChars 10 n.exponent 0
  if maxExponent < exponent then
    if significand ≠ 0 ∧ !n.exponentNegative then none else some 0
  else scaled? significand (if n.exponentNegative then point - exponent else point + exponent)

/-- The integer that a numeral spells, if it is a JSON integer. Minus zero is none. -/
def integer? (n : Numeral) : Option JsonNumber :=
  if n.fraction ≠ [] ∨ n.exponent ≠ [] then none
  else
    let m := Nat.ofDigitChars 10 n.whole 0
    if n.negative then if m = 0 then none else JsonNumber.ofInt? (-m)
    else JsonNumber.ofInt? m

/-- The number of a numeral, unless it is too great. -/
def value? (n : Numeral) : Option JsonNumber :=
  match n.integer? with
  | some x => some x
  | none => n.magnitude?.bind fun m => JsonNumber.ofFloat? (.ofMagnitude n.negative m)

end Numeral

end SqlCompose.Json
