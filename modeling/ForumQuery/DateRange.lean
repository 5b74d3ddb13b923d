import ForumQuery.Calendar.Day
import ForumQuery.SearchRecord

/-!
# Date ranges

The dates of a record become a range of instants. A date that is missing or cannot be used leaves
its side open: the range then starts at the beginning of 1970, or ends now.
-/

namespace ForumQuery

/-- A range of instants, in milliseconds from the beginning of 1970, both ends included. -/
structure DateRange where
  start : Int
  stop : Int
  deriving DecidableEq

namespace DateRange

/-- The instant that a bound gives, or the fallback if there is no bound or it cannot be used. -/
def bound (resolve : Text → Except DateError Int) (date : Option Text) (fallback : Int) : Int :=
  match date with
  | none => fallback
  | some text => (resolve text).toOption.getD fallback

/-- The range of a record's filters at the instant `now`. -/
def ofFilters (filters : Filters) (now : Int) : DateRange :=
  let offset := filters.timeZoneOffset
  ⟨bound (Day.start · offset) filters.fromDate 0, bound (Day.stop · offset) filters.toDate now⟩

end DateRange

end ForumQuery
