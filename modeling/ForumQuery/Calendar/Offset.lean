import ForumQuery.Calendar.DateText

/-!
# Time zone offsets

An offset counts the seconds that local time is ahead of UTC. An offset of a day or more in either
direction belongs to no time zone.
-/

namespace ForumQuery

namespace Offset

/-- An offset that some time zone can have. -/
def isValid (seconds : Int) : Bool :=
  decide (-86400 < seconds) && decide (seconds < 86400)

/-- The offset, if some time zone can have it. -/
def check (seconds : Int) : Except DateError Int :=
  if isValid seconds then .ok seconds else .error (.invalidOffset seconds)

/-- The offset in effect: one that no time zone can have counts as UTC. -/
def effective (seconds : Int) : Int :=
  if isValid seconds then seconds else 0

end Offset

end ForumQuery
