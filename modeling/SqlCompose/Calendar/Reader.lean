import SqlCompose.Calendar.Timestamp
import SqlCompose.Text.Blank

/-!
# Dates and timestamps in text

There are two forms. The strict form has fixed widths and an offset from universal time. The
lenient form has none, allows blanks before each number and each mark, numbers of fewer digits,
and years of any length behind a sign.
-/

namespace SqlCompose.Calendar

open Text

/-- What follows the character `c` at the front of a text. -/
def expect (c : Char) : List Char → Option (List Char)
  | [] => none
  | d :: s => if d = c then some s else none

/-- The number of at most `most` digits at the front of a text, and what follows it. -/
def takeNumber (most : Nat) (s : List Char) : Option (Nat × List Char) :=
  match (s.take most).takeWhile Char.isDigit with
  | [] => none
  | ds => some (Nat.ofDigitChars 10 ds 0, s.drop ds.length)

/-- The number of just `width` digits at the front of a text, and what follows it. -/
def takeFixed (width : Nat) (s : List Char) : Option (Nat × List Char) :=
  let ds := s.take width
  if ds.length = width ∧ ds.all Char.isDigit then
    some (Nat.ofDigitChars 10 ds 0, s.drop width)
  else none

/-- The nanoseconds behind a point, zero without a point. Digits beyond the ninth are passed over. -/
def takeFraction : List Char → Option (Nat × List Char)
  | '.' :: s =>
    match s.takeWhile Char.isDigit with
    | [] => none
    | ds => some (Nat.ofDigitChars 10 ((ds ++ List.replicate 9 '0').take 9) 0, s.drop ds.length)
  | s => some (0, s)

/-- An offset from universal time in seconds. -/
def takeOffset : List Char → Option (Int × List Char)
  | [] => none
  | c :: s =>
    if c = 'Z' ∨ c = 'z' then some (0, s)
    else do
      let sign ← if c = '+' then some 1 else if c = '-' ∨ c = '−' then some (-1 : Int) else none
      let (hours, s) ← takeFixed 2 s
      let s ← expect ':' s
      let (minutes, s) ← takeFixed 2 s
      if 23 < hours ∨ 59 < minutes then none
      else some (sign * (hours * 3600 + minutes * 60 : Nat), s)

/-- The instant that a text spells in the strict form. -/
def readStrict (s : List Char) : Option Timestamp := do
  let (year, s) ← takeFixed 4 s
  let s ← expect '-' s
  let (month, s) ← takeFixed 2 s
  let s ← expect '-' s
  let (day, s) ← takeFixed 2 s
  let s ← expect 'T' s <|> expect 't' s <|> expect ' ' s
  let (hour, s) ← takeFixed 2 s
  let s ← expect ':' s
  let (minute, s) ← takeFixed 2 s
  let s ← expect ':' s
  let (second, s) ← takeFixed 2 s
  let (nano, s) ← takeFraction s
  let (offset, s) ← takeOffset s
  let date ← Date.ofYmd? year month day
  let time ← TimeOfDay.ofClock? hour minute second nano
  if s ≠ [] then none
  else Timestamp.ofSeconds? (Timestamp.seconds ⟨date, time⟩ - offset) time.nano

/-- A year: any number of digits behind a sign, up to four without. -/
def takeYear : List Char → Option (Int × List Char)
  | '+' :: s => (takeNumber s.length s).map fun (n, s) => ((n : Int), s)
  | '-' :: s => (takeNumber s.length s).map fun (n, s) => (-(n : Int), s)
  | s => (takeNumber 4 s).map fun (n, s) => ((n : Int), s)

/-- A date in the lenient form, and what follows it. -/
def takeDate (s : List Char) : Option (Date × List Char) := do
  let (year, s) ← takeYear (trimStart s)
  let s ← expect '-' (trimStart s)
  let (month, s) ← takeNumber 2 (trimStart s)
  let s ← expect '-' (trimStart s)
  let (day, s) ← takeNumber 2 (trimStart s)
  let date ← Date.ofYmd? year month day
  return (date, s)

/-- A time in the lenient form, and what follows it. -/
def takeTime (s : List Char) : Option (TimeOfDay × List Char) := do
  let (hour, s) ← takeNumber 2 (trimStart s)
  let s ← expect ':' (trimStart s)
  let (minute, s) ← takeNumber 2 (trimStart s)
  let s ← expect ':' (trimStart s)
  let (second, s) ← takeNumber 2 (trimStart s)
  let (nano, s) ← takeFraction s
  let time ← TimeOfDay.ofClock? hour minute second nano
  return (time, s)

/-- The date that a text spells in the lenient form. -/
def readDate (s : List Char) : Option Date := do
  let (date, s) ← takeDate s
  if trimStart s = [] then some date else none

/-- The instant that a text spells in the lenient form. -/
def readLenient (s : List Char) : Option Timestamp := do
  let (date, s) ← takeDate s
  let s ← expect 'T' (trimStart s)
  let (time, s) ← takeTime s
  if trimStart s = [] then some ⟨date, time⟩ else none

end SqlCompose.Calendar
