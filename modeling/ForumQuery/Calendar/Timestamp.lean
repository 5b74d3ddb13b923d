import ForumQuery.Calendar.Day

/-!
# Timestamps

An instant is written as date and time of day in UTC, to the millisecond. Years from 0 to 9999 have
four digits; others have a sign and at least four.
-/

namespace ForumQuery.Timestamp

/-- A number with zeros in front up to the given width. -/
def padded (width n : Nat) : Text :=
  let digits := Text.digits n
  List.replicate (width - digits.length) '0' ++ digits

/-- The year of a timestamp. -/
def year (year : Int) : Text :=
  if year < 0 then '-' :: padded 4 year.natAbs
  else if year ≤ 9999 then padded 4 year.natAbs
  else '+' :: padded 4 year.natAbs

/-- The date of a timestamp. -/
def date (date : Date) : Text :=
  year date.year ++ '-' :: padded 2 date.month ++ '-' :: padded 2 date.day

/-- The time of day after the given number of milliseconds. -/
def time (millis : Nat) : Text :=
  let seconds := millis / 1000
  padded 2 (seconds / 3600) ++ ':' :: padded 2 (seconds / 60 % 60) ++ ':' :: padded 2 (seconds % 60)
    ++ '.' :: padded 3 (millis % 1000)

/-- An instant as date and time of day. Outside the calendar in use it has no such form. -/
def text (instant : Int) : Text :=
  if Day.firstInstant ≤ instant ∧ instant ≤ Day.lastInstant then
    date (Date.ofDayNumber (instant / Day.length)) ++ 'T' :: time (instant % Day.length).toNat
      ++ ['Z']
  else
    "out of range".toList

end ForumQuery.Timestamp
