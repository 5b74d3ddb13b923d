import ForumQuery.Calendar.Offset

/-!
# The bounds of a day

A day has a first and a last millisecond in each time zone. Instants are counted in milliseconds
from midnight UTC on 1 January 1970 and stay between the first and the last instant of the
calendar in use.
-/

namespace ForumQuery.Day

/-- The milliseconds of a day. -/
def length : Int := 86400000

/-- Midnight UTC at the beginning of a day. -/
def midnight (date : Date) : Int :=
  length * date.dayNumber

/-- The first instant of the calendar in use. -/
def firstInstant : Int :=
  midnight ⟨Date.firstYear, 1, 1⟩

/-- The last instant of the calendar in use. -/
def lastInstant : Int :=
  midnight ⟨Date.lastYear, 12, 31⟩ + (length - 1)

/-- The instant at which clocks that are `offset` seconds ahead of UTC show what clocks in UTC show
at the given instant. There is none outside the calendar in use. -/
def shifted (instant offset : Int) : Except DateError Int :=
  let utc := instant - 1000 * Offset.effective offset
  if firstInstant ≤ utc ∧ utc ≤ lastInstant then .ok utc else .error .invalidDate

/-- The first millisecond of a day as it is written, in the time zone of the offset. -/
def start (text : Text) (offset : Int) : Except DateError Int := do
  let date ← Date.read text
  shifted (midnight date) offset

/-- The last millisecond of a day as it is written, in the time zone of the offset. -/
def stop (text : Text) (offset : Int) : Except DateError Int := do
  let date ← Date.read text
  shifted (midnight date + (length - 1)) offset

end ForumQuery.Day
