/-!
# Dates of the Gregorian calendar

Days are named by year, month and day, with the rules of the Gregorian calendar in all years, the
year zero and negative years included, and counted from 1 January 1970.

`Date.dayNumber` and `Date.ofDayNumber` go from the one to the other.
-/

namespace ForumQuery

/-- A day by year, month and day of the month. -/
structure Date where
  year : Int
  month : Nat
  day : Nat
  deriving DecidableEq

namespace Date

/-- The first year of the calendar in use. -/
def firstYear : Int := -262143

/-- The last year of the calendar in use. -/
def lastYear : Int := 262142

/-- Every fourth year has a leap day, except three of four years that end a century. -/
def isLeapYear (year : Int) : Bool :=
  year % 4 == 0 && (year % 100 != 0 || year % 400 == 0)

/-- The number of days of a month. -/
def monthLength (leap : Bool) (month : Nat) : Nat :=
  if month = 2 then
    if leap then 29 else 28
  else if month = 4 ∨ month = 6 ∨ month = 9 ∨ month = 11 then 30
  else 31

/-- A day that exists in a year of the calendar in use. -/
def isValid (date : Date) : Bool :=
  decide (firstYear ≤ date.year) && decide (date.year ≤ lastYear)
    && decide (1 ≤ date.month) && decide (date.month ≤ 12)
    && decide (1 ≤ date.day) && decide (date.day ≤ monthLength (isLeapYear date.year) date.month)

/-- The days from 1 January of the year 1 to 1 January of the given year. -/
def daysBeforeYear (year : Int) : Int :=
  365 * (year - 1) + (year - 1) / 4 - (year - 1) / 100 + (year - 1) / 400

/-- The days of a year before the given month. -/
def daysBeforeMonth (leap : Bool) : Nat → Nat
  | 0 | 1 => 0
  | month + 2 => daysBeforeMonth leap (month + 1) + monthLength leap (month + 1)

/-- The days from 1 January of the year 1 to 1 January 1970. -/
def epochDays : Int := 719162

example : daysBeforeYear 1970 = epochDays := by decide

/-- The days from 1 January 1970 to the given day, negative before it. -/
def dayNumber (date : Date) : Int :=
  daysBeforeYear date.year - epochDays
    + (daysBeforeMonth (isLeapYear date.year) date.month + date.day : Nat) - 1

/-- The last of the first `count` months that has begun by a day of the year, counted from zero. -/
def monthAt (leap : Bool) (dayOfYear : Nat) : Nat → Nat
  | 0 => 0
  | month + 1 =>
      if daysBeforeMonth leap (month + 1) ≤ dayOfYear then month + 1
      else monthAt leap dayOfYear month

/-- The day of a year with the given number, counted from zero. -/
def ofDayOfYear (year : Int) (dayOfYear : Nat) : Date :=
  let leap := isLeapYear year
  let month := monthAt leap dayOfYear 12
  ⟨year, month, dayOfYear - daysBeforeMonth leap month + 1⟩

/-- The day at a distance from 1 January 1970. Whole periods of 400, 100, 4 and 1 years are taken
off in turn; only the last of four centuries and the last of four years can be a day longer. -/
def ofDayNumber (number : Int) : Date :=
  let days := number + epochDays
  let era := days / 146097
  let inEra := (days % 146097).toNat
  let century := min (inEra / 36524) 3
  let inCentury := inEra - 36524 * century
  let group := inCentury / 1461
  let inGroup := inCentury % 1461
  let rest := min (inGroup / 365) 3
  let year := 400 * era + (100 * century + 4 * group + rest + 1 : Nat)
  ofDayOfYear year (inGroup - 365 * rest)

example : ofDayNumber 0 = ⟨1970, 1, 1⟩ := by decide

example : (dayNumber ⟨2024, 2, 29⟩, ofDayNumber 19782) = (19782, ⟨2024, 2, 29⟩) := by decide

example : ofDayNumber (dayNumber ⟨firstYear, 1, 1⟩) = ⟨firstYear, 1, 1⟩ := by decide

example : ofDayNumber (dayNumber ⟨lastYear, 12, 31⟩) = ⟨lastYear, 12, 31⟩ := by decide

end Date

end ForumQuery
