import SqlCompose.Number.Integer

/-!
# Dates

Days of the Gregorian calendar, counted from the first of January 1970 and carried on to all years,
zero and negative ones among them.
-/

namespace SqlCompose

namespace Calendar

/-- Has the year a leap day? -/
def isLeap (year : Int) : Bool :=
  year % 4 == 0 && (year % 100 != 0 || year % 400 == 0)

/-- The lengths of the months of a year. -/
def monthLengths (leap : Bool) : List Nat :=
  [31, if leap then 29 else 28, 31, 30, 31, 30, 31, 31, 30, 31, 30, 31]

/-- The days of a year before one of its months. -/
def daysBeforeMonth (leap : Bool) (month : Nat) : Nat :=
  ((monthLengths leap).take (month - 1)).foldl (· + ·) 0

/-- The days from the start of year zero to the start of a year, negative before it. -/
def daysBeforeYear (year : Int) : Int :=
  365 * year + (year + 3) / 4 - (year + 99) / 100 + (year + 399) / 400

/-- The days from the start of year zero to the first of January 1970. -/
def epoch : Int := daysBeforeYear 1970

/-- The year of a day counted from the start of year zero. Four hundred years have 146097 days, so
their average gives the year or one next to it. -/
def yearOf (n : Int) : Int :=
  let y := n * 400 / 146097
  if n < daysBeforeYear y then y - 1
  else if daysBeforeYear (y + 1) ≤ n then y + 1
  else y

/-- The month and the day of the month after `n` days, where the months left have the given
lengths and `month` is the first of them. -/
def monthOf (month n : Nat) : List Nat → Nat × Nat
  | [] => (month, n + 1)
  | length :: lengths => if n < length then (month, n + 1) else monthOf (month + 1) (n - length) lengths

/-- The first year that is counted. -/
def firstYear : Int := -262143

/-- The last year that is counted. -/
def lastYear : Int := 262142

/-- The first day that is counted. -/
def firstDay : Int := daysBeforeYear firstYear - epoch

/-- The last day that is counted. -/
def lastDay : Int := daysBeforeYear (lastYear + 1) - epoch - 1

end Calendar

open Calendar

/-- A day, counted from the first of January 1970. -/
structure Date where
  day : Int
  inRange : firstDay ≤ day ∧ day ≤ lastDay
  deriving DecidableEq, Repr

namespace Date

/-- The day of that number, if it is counted. -/
def ofDay? (n : Int) : Option Date :=
  if h : firstDay ≤ n ∧ n ≤ lastDay then some ⟨n, h⟩ else none

/-- The day of a year, a month and a day of the month, if there is one. -/
def ofYmd? (year : Int) (month day : Nat) : Option Date :=
  let leap := isLeap year
  if 1 ≤ month ∧ month ≤ 12 ∧ 1 ≤ day ∧ day ≤ (monthLengths leap).getD (month - 1) 0 then
    ofDay? (daysBeforeYear year - epoch + daysBeforeMonth leap month + (day - 1 : Nat))
  else none

/-- The day counted from the start of year zero. -/
def ordinal (d : Date) : Int := d.day + epoch

/-- The year. -/
def year (d : Date) : Int := yearOf d.ordinal

/-- The month and the day of the month. -/
def monthDay (d : Date) : Nat × Nat :=
  monthOf 1 (d.ordinal - daysBeforeYear d.year).toNat (monthLengths (isLeap d.year))

/-- The month. -/
def month (d : Date) : Nat := d.monthDay.1

/-- The day of the month. -/
def dayOfMonth (d : Date) : Nat := d.monthDay.2

end Date

namespace Calendar

/-- The digits of `n`, at least `width` of them. -/
def padded (width n : Nat) : List Char :=
  let digits := Nat.toDigits 10 n
  List.replicate (width - digits.length) '0' ++ digits

/-- A year with at least four digits, and with a sign unless it has just four. -/
def yearText (year : Int) : List Char :=
  if year < 0 then '-' :: padded 4 year.natAbs
  else if 9999 < year then '+' :: padded 4 year.natAbs
  else padded 4 year.natAbs

end Calendar

/-- The text of a date: year, month and day between hyphens. -/
def Date.digits (d : Date) : List Char :=
  yearText d.year ++ '-' :: padded 2 d.month ++ '-' :: padded 2 d.dayOfMonth

/-- The text of a date. -/
def Date.text (d : Date) : String := String.ofList d.digits

end SqlCompose
