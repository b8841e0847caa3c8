import SqlCompose.Calendar.Date

/-!
# Times and timestamps

The time of a day in seconds and nanoseconds, and instants of universal time. A leap second is the
second before it with a thousand million nanoseconds or more.
-/

namespace SqlCompose

open Calendar

/-- The seconds of a day. -/
def daySeconds : Nat := 86400

/-- The nanoseconds of a second. -/
def secondNanos : Nat := 1000000000

/-- The time of a day. -/
structure TimeOfDay where
  second : Nat
  nano : Nat
  second_lt : second < daySeconds
  nano_lt : nano < 2 * secondNanos
  deriving DecidableEq, Repr

namespace TimeOfDay

/-- The time of a second of the day and its nanoseconds. -/
def ofParts? (second nano : Nat) : Option TimeOfDay :=
  if h : second < daySeconds ∧ nano < 2 * secondNanos then some ⟨second, nano, h.1, h.2⟩ else none

/-- The time of hour, minute, second and nanosecond. The second 60 is a leap second. -/
def ofClock? (hour minute second nano : Nat) : Option TimeOfDay :=
  if 23 < hour ∨ 59 < minute ∨ 60 < second ∨ secondNanos ≤ nano then none
  else if second = 60 then ofParts? (hour * 3600 + minute * 60 + 59) (nano + secondNanos)
  else ofParts? (hour * 3600 + minute * 60 + second) nano

/-- The start of the day. -/
def midnight : TimeOfDay := ⟨0, 0, by decide, by decide⟩

/-- The time some microseconds after the start of a day, whichever day that is. -/
def ofMicros (micros : Int) : TimeOfDay where
  second := (micros / 1000000 % daySeconds).toNat
  nano := (micros % 1000000).toNat * 1000
  second_lt := by simp only [daySeconds]; omega
  nano_lt := by simp only [secondNanos]; omega

/-- A fraction of a second: nothing, or three, six or nine digits, as few as are exact. -/
def fraction (nano : Nat) : List Char :=
  if nano = 0 then []
  else if nano % 1000000 = 0 then '.' :: padded 3 (nano / 1000000)
  else if nano % 1000 = 0 then '.' :: padded 6 (nano / 1000)
  else '.' :: padded 9 nano

/-- The text of a time. A leap second is written as second 60. -/
def digits (t : TimeOfDay) : List Char :=
  let leap := t.nano / secondNanos
  padded 2 (t.second / 3600) ++ ':' :: padded 2 (t.second / 60 % 60) ++
    ':' :: padded 2 (t.second % 60 + leap) ++ fraction (t.nano % secondNanos)

/-- The text of a time. -/
def text (t : TimeOfDay) : String := String.ofList t.digits

end TimeOfDay

/-- An instant of universal time. -/
structure Timestamp where
  date : Date
  time : TimeOfDay
  deriving DecidableEq, Repr

namespace Timestamp

/-- The start of a day. -/
def ofDate (d : Date) : Timestamp := ⟨d, .midnight⟩

/-- The seconds since the start of 1970. -/
def seconds (t : Timestamp) : Int := t.date.day * daySeconds + t.time.second

/-- The instant of seconds since the start of 1970 and nanoseconds, if its day is counted. -/
def ofSeconds? (seconds : Int) (nano : Nat) : Option Timestamp := do
  let date ← Date.ofDay? (seconds / daySeconds)
  let time ← TimeOfDay.ofParts? (seconds % daySeconds).toNat nano
  return ⟨date, time⟩

/-- The start of the year 2000 in seconds since the start of 1970. -/
def startOf2000 : Int := 946684800

/-- The microseconds since the start of 2000. Nanoseconds are cut toward that instant. -/
def micros (t : Timestamp) : Int :=
  ((t.seconds - startOf2000) * secondNanos + t.time.nano).tdiv 1000

/-- The instant some microseconds after the start of 2000, if its day is counted. -/
def ofMicros? (micros : Int) : Option Timestamp :=
  ofSeconds? (startOf2000 + micros / 1000000) ((micros % 1000000).toNat * 1000)

/-- The text of an instant without its offset: date and time with a `T` between them. -/
def digits (t : Timestamp) : List Char := t.date.digits ++ 'T' :: t.time.digits

/-- The text of an instant without its offset. -/
def localText (t : Timestamp) : String := String.ofList t.digits

/-- The text of an instant with the offset of universal time. -/
def text (t : Timestamp) : String := String.ofList (t.digits ++ "+00:00".toList)

end Timestamp

end SqlCompose
