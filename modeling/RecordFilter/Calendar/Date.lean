import RecordFilter.Number.Numeral

/-!
# Calendar dates

Days of the proleptic Gregorian calendar, in which there is a year zero and every century year
not divisible by 400 is a common year. A date exists only with a month and a day that the
calendar has.
-/

namespace RecordFilter.Calendar

open RecordFilter.Number

/-- The year has a 29 February. -/
def isLeapYear (year : Int) : Bool :=
  year % 4 == 0 && (year % 100 != 0 || year % 400 == 0)

/-- The number of days of a month, 0 for a month that does not exist. -/
def daysInMonth (year : Int) (month : Nat) : Nat :=
  match month with
  | 1 | 3 | 5 | 7 | 8 | 10 | 12 => 31
  | 4 | 6 | 9 | 11 => 30
  | 2 => if isLeapYear year then 29 else 28
  | _ => 0

structure Date where
  year : Int
  month : Nat
  day : Nat
  day_pos : 1 ≤ day
  day_le : day ≤ daysInMonth year month
  deriving DecidableEq

namespace Date

/-- The date with these parts, if the calendar has it. -/
def ofParts? (year : Int) (month day : Nat) : Option Date :=
  if h : 1 ≤ day ∧ day ≤ daysInMonth year month then some ⟨year, month, day, h.1, h.2⟩ else none

/-- Years from 0 to 9999 have four digits; all others have a sign and at least four digits. -/
def yearText (year : Int) : List Char :=
  let digits := padDigits 4 (digitsOf year.natAbs)
  if 0 ≤ year ∧ year ≤ 9999 then digits
  else (if year < 0 then '-' else '+') :: digits

/-- The date as year, month and day. -/
def text (d : Date) : List Char :=
  yearText d.year ++ '-' :: padDigits 2 (digitsOf d.month) ++ '-' :: padDigits 2 (digitsOf d.day)

/-- The start of the day in universal time. -/
def instant (d : Date) : List Char :=
  d.text ++ "T00:00:00.000Z".toList

end Date

end RecordFilter.Calendar
