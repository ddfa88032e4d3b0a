/-! # The proleptic Gregorian calendar

Days are counted from the first of January 1970, which is day zero. The calendar
extends the present rule for leap years to all years, before and after, and has a
year zero. `Calendar.dayNumber` counts the days up to a date, and
`Calendar.dateOfDay` finds the date of a day. -/

namespace PortableFilter

/-- A date of the proleptic Gregorian calendar. -/
structure Date where
  year : Int
  /-- The month, from 1 to 12. -/
  month : Nat
  /-- The day of the month, from 1 on. -/
  day : Nat
  deriving DecidableEq, Repr

namespace Calendar

/-- Whether a year has 366 days. -/
def isLeap (year : Int) : Bool := year % 4 = 0 && (year % 100 ≠ 0 || year % 400 = 0)

/-- The lengths of the months of a year, January first. -/
def monthLengths (leap : Bool) : List Nat :=
  [31, if leap then 29 else 28, 31, 30, 31, 30, 31, 31, 30, 31, 30, 31]

/-- The length of a month; zero if there is no such month. -/
def monthLength (leap : Bool) (month : Nat) : Nat :=
  if month = 0 then 0 else (monthLengths leap).getD (month - 1) 0

/-- Whether a date is a day of the calendar. -/
def isDate (date : Date) : Bool :=
  1 ≤ date.day && date.day ≤ monthLength (isLeap date.year) date.month

/-- The number of days from the first day of the year 1 to the first day of a year. -/
def daysBeforeYear (year : Int) : Int :=
  let years := year - 1
  365 * years + years / 4 - years / 100 + years / 400

/-- The number of days of a year before the first day of a month. -/
def daysBeforeMonth (leap : Bool) (month : Nat) : Nat :=
  ((monthLengths leap).take (month - 1)).foldl (· + ·) 0

/-- The number of days from the first day of the year 1 to the first day of 1970. -/
def epoch : Int := 719162

/-- The number of a date's day, counted from the first of January 1970. -/
def dayNumber (date : Date) : Int :=
  daysBeforeYear date.year + daysBeforeMonth (isLeap date.year) date.month + (date.day - 1) - epoch

/-- The month and the day of the month of the day number `day`, counted from zero, in a stretch
of months that starts with the month number `month`. -/
def locate (month : Nat) : List Nat → Nat → Nat × Nat
  | [], day => (month, day + 1)
  | length :: later, day =>
    if day < length then (month, day + 1) else locate (month + 1) later (day - length)

/-- The year of a day, counted from the first day of the year 1, and the number of the day in
that year, counted from zero. A cycle of 400 years has four centuries, a century 25 spans of four
years; the last century and the last year of a span may be one day longer than the others. -/
def yearOfDay (day : Int) : Int × Nat :=
  let cycle := day / 146097
  let inCycle := (day % 146097).toNat
  let century := min (inCycle / 36524) 3
  let inCentury := inCycle - 36524 * century
  let span := inCentury / 1461
  let inSpan := inCentury - 1461 * span
  let year := min (inSpan / 365) 3
  (400 * cycle + (100 * century + 4 * span + year : Nat) + 1, inSpan - 365 * year)

/-- The date of a day, counted from the first of January 1970. -/
def dateOfDay (day : Int) : Date :=
  let (year, inYear) := yearOfDay (day + epoch)
  let (month, inMonth) := locate 1 (monthLengths (isLeap year)) inYear
  ⟨year, month, inMonth⟩

end Calendar

end PortableFilter
