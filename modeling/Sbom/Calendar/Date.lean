/-!
# Calendar dates

Dates of the proleptic Gregorian calendar in the supported range of years. A `Date` is always a day
that exists; stepping to a neighbour fails only at the ends of the range.
-/

namespace Sbom.Calendar

/-- Whether a year has a 29th of February. -/
def isLeapYear (year : Int) : Bool :=
  year % 4 == 0 && (year % 100 != 0 || year % 400 == 0)

/-- The number of days of a month; months are counted from one. -/
def daysInMonth (year : Int) (month : Nat) : Nat :=
  match month with
  | 2 => if isLeapYear year then 29 else 28
  | 4 => 30
  | 6 => 30
  | 9 => 30
  | 11 => 30
  | _ => 31

/-- The first supported year. -/
def firstYear : Int := -262143

/-- The last supported year. -/
def lastYear : Int := 262142

/-- A day of the calendar. -/
structure Date where
  /-- The year; year zero precedes year one. -/
  year : Int
  /-- The month, from one. -/
  month : Nat
  /-- The day of the month, from one. -/
  day : Nat
  /-- The year is supported. -/
  year_inRange : firstYear ≤ year ∧ year ≤ lastYear
  /-- The month exists. -/
  month_inRange : 1 ≤ month ∧ month ≤ 12
  /-- The day exists in its month. -/
  day_inRange : 1 ≤ day ∧ day ≤ daysInMonth year month
deriving DecidableEq

/-- The date with the given year, month and day, if there is one. -/
def Date.ofYmd? (year : Int) (month day : Nat) : Option Date :=
  if valid : (firstYear ≤ year ∧ year ≤ lastYear) ∧ (1 ≤ month ∧ month ≤ 12) ∧
      (1 ≤ day ∧ day ≤ daysInMonth year month) then
    some ⟨year, month, day, valid.1, valid.2.1, valid.2.2⟩
  else none

/-- A date is found again from its parts. -/
theorem Date.ofYmd?_self (date : Date) :
    Date.ofYmd? date.year date.month date.day = some date := by
  simp [Date.ofYmd?, date.year_inRange, date.month_inRange, date.day_inRange]

/-- The following day. -/
def Date.next? (date : Date) : Option Date :=
  if date.day < daysInMonth date.year date.month then
    Date.ofYmd? date.year date.month (date.day + 1)
  else if date.month < 12 then Date.ofYmd? date.year (date.month + 1) 1
  else Date.ofYmd? (date.year + 1) 1 1

/-- The preceding day. -/
def Date.previous? (date : Date) : Option Date :=
  if 1 < date.day then Date.ofYmd? date.year date.month (date.day - 1)
  else if 1 < date.month then
    Date.ofYmd? date.year (date.month - 1) (daysInMonth date.year (date.month - 1))
  else Date.ofYmd? (date.year - 1) 12 31

end Sbom.Calendar
