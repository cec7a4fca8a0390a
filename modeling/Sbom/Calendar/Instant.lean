import Sbom.Calendar.Date
import Sbom.Text.Decimal

/-!
# Instants

A point in time in UTC with nanoseconds, and its RFC 3339 text. A leap second is second 60 and may
close any minute. Years outside 0 to 9999 are written with their sign.
-/

namespace Sbom.Calendar

/-- A point in time in UTC. -/
structure Instant where
  /-- The day. -/
  date : Date
  /-- The hour of the day. -/
  hour : Nat
  /-- The minute of the hour. -/
  minute : Nat
  /-- The second of the minute; 60 is a leap second. -/
  second : Nat
  /-- The nanosecond of the second. -/
  nanosecond : Nat
  /-- The hour exists. -/
  hour_lt : hour < 24
  /-- The minute exists. -/
  minute_lt : minute < 60
  /-- The second exists. -/
  second_le : second ≤ 60
  /-- The nanosecond exists. -/
  nanosecond_lt : nanosecond < 1000000000
deriving DecidableEq

/-- The text of a year: four digits, or a sign and at least four digits. -/
def yearText (year : Int) : List Char :=
  if 0 ≤ year ∧ year ≤ 9999 then Text.decimalPadded 4 year.natAbs
  else (if year < 0 then '-' else '+') :: Text.decimalPadded 4 year.natAbs

/-- The text of a fraction of a second: none, or the fewest of three, six and nine digits that are
exact. -/
def fractionText (nanosecond : Nat) : List Char :=
  if nanosecond = 0 then []
  else if nanosecond % 1000000 = 0 then '.' :: Text.decimalPadded 3 (nanosecond / 1000000)
  else if nanosecond % 1000 = 0 then '.' :: Text.decimalPadded 6 (nanosecond / 1000)
  else '.' :: Text.decimalPadded 9 nanosecond

/-- The text of an instant with the given text for the fraction of its second. -/
def Instant.textWith (instant : Instant) (fraction : List Char) : List Char :=
  yearText instant.date.year ++ '-' :: Text.decimalPadded 2 instant.date.month ++
    '-' :: Text.decimalPadded 2 instant.date.day ++
    'T' :: Text.decimalPadded 2 instant.hour ++
    ':' :: Text.decimalPadded 2 instant.minute ++
    ':' :: Text.decimalPadded 2 instant.second ++ fraction ++ ['Z']

/-- The RFC 3339 text of an instant, with as many digits of the second as it needs. -/
def Instant.text (instant : Instant) : String :=
  String.ofList (instant.textWith (fractionText instant.nanosecond))

/-- The RFC 3339 text of an instant, cut to whole seconds. -/
def Instant.secondsText (instant : Instant) : String :=
  String.ofList (instant.textWith [])

end Sbom.Calendar
