import ForumQuery.Proofs.Calendar.Ranges
import ForumQuery.Proofs.Resolution.LastFlag
import ForumQuery.Query

/-!
# One range of dates for a query

The records of a query have their filters in common, and with them the range of dates in which they
look. `range_of_query` says so, and that each side of the range goes back to the last flag for it
alone: to what that flag's date resolves to, or else to a fallback.
-/

namespace ForumQuery

/-- Each side of the range is bounded by the date of the last included flag for that side, in the
time zone of the offset; without such a date, by the beginning of 1970 and by the present. -/
structure DateRange.FollowsLast (flags : List Flag) (offset now : Int) (range : DateRange) :
    Prop where
  start : ∃ date, Flag.LastAsked .fromDate flags date ∧
    DateRange.BoundedBy (Day.start · offset) 0 date range.start
  stop : ∃ date, Flag.LastAsked .toDate flags date ∧
    DateRange.BoundedBy (Day.stop · offset) now date range.stop

/-- The range of settled filters follows the last flags. -/
theorem Filters.settled_range (flags : List Flag) (tags : Terms) (offset now : Int) :
    (DateRange.ofFilters (settled flags tags offset) now).FollowsLast flags offset now where
  start := ⟨_, Flag.last_asked_read .fromDate flags, DateRange.bound_iff.2 rfl⟩
  stop := ⟨_, Flag.last_asked_read .toDate flags, DateRange.bound_iff.2 rfl⟩

/-- The records of a query agree in everything but their terms and the field of these. They have the
offset of the query, whatever it is, and look in one range of dates, of which each side follows the
last flag for it. So a date that does not resolve takes the place of all dates given before it for
the same side, and leaves that side at its fallback. -/
theorem range_of_query (query : Text) (offset now : Int) :
    let flags := (Query.read query offset).extraction.flags
    let records := Query.parse query offset
    (∀ left ∈ records, ∀ right ∈ records,
      left.filters = right.filters ∧ left.sameFilters right = true ∧
      DateRange.ofFilters left.filters now = DateRange.ofFilters right.filters now) ∧
    ∀ record ∈ records,
      let range := DateRange.ofFilters record.filters now
      record.filters.timeZoneOffset = offset ∧
      range.FollowsLast flags offset now ∧
      ∀ front flag back error, flags = front ++ flag :: back → flag.excluded = false →
        (∀ later ∈ back, later.name = flag.name → later.excluded = true) →
        (flag.name = .fromDate → Day.start flag.value offset = .error error → range.start = 0) ∧
        (flag.name = .toDate → Day.stop flag.value offset = .error error → range.stop = now) := by
  intro flags records
  have hfilters : ∀ record ∈ records, record.filters =
      Filters.settled flags (Query.read query offset).buckets.tags offset :=
    fun record hrecord => SearchRecord.filters_of_mem_build hrecord
  refine ⟨fun left hleft right hright => ?_, fun record hrecord => ?_⟩
  · have hequal : left.filters = right.filters :=
      (hfilters left hleft).trans (hfilters right hright).symm
    exact ⟨hequal, Filters.agree_iff.2 hequal, congrArg (DateRange.ofFilters · now) hequal⟩
  · intro range
    have hfollows : range.FollowsLast flags offset now := by
      show (DateRange.ofFilters record.filters now).FollowsLast flags offset now
      rw [hfilters record hrecord]
      exact Filters.settled_range ..
    refine ⟨?_, hfollows, fun front flag back error hflags hincluded hback => ⟨?_, ?_⟩⟩
    · rw [hfilters record hrecord]
      rfl
    -- The flag is the last one for its side, so that side is bounded by its text and no other.
    · intro hname herror
      obtain ⟨date, hdate, hbounded⟩ := hfollows.start
      have hasks : flag.Asks .fromDate flag.value := ⟨hname, hincluded, rfl⟩
      obtain rfl := hdate.unique (hflags ▸ hasks.last_asked front (hname ▸ hback))
      exact hbounded.of_error herror
    · intro hname herror
      obtain ⟨date, hdate, hbounded⟩ := hfollows.stop
      have hasks : flag.Asks .toDate flag.value := ⟨hname, hincluded, rfl⟩
      obtain rfl := hdate.unique (hflags ▸ hasks.last_asked front (hname ▸ hback))
      exact hbounded.of_error herror

/-- A text that is no date takes the place of a good one in both records, while the other side ends
with its leap day, though the offset is that of no time zone and a later flag is excluded. -/
theorem range_of_query_no_date :
    let query := "from:2024-1-1 title:rust from:soon -to:2024-1-2 word to:2024-2-29".toList
    let filters : Filters :=
      { postType := some .question, fromDate := some "soon".toList,
        toDate := some "2024-2-29".toList, timeZoneOffset := 1000000 }
    let left : SearchRecord := ⟨⟨"word".toList, []⟩, some .plain, filters⟩
    let right : SearchRecord := ⟨⟨"rust".toList, []⟩, some .title, filters⟩
    let flags : List Flag := (Query.read query 1000000).extraction.flags
    left ∈ Query.parse query 1000000 ∧ right ∈ Query.parse query 1000000 ∧
      left.sameFilters right = true ∧
      (DateRange.ofFilters left.filters 5).FollowsLast flags 1000000 5 ∧
      (DateRange.ofFilters left.filters 5).start = 0 ∧
      Day.stop "2024-2-29".toList 1000000 = .ok 1709251199999 ∧
      (DateRange.ofFilters left.filters 5).stop = 1709251199999 := by
  intro query filters left right flags
  have hleft : left ∈ Query.parse query 1000000 := by decide +kernel
  have hright : right ∈ Query.parse query 1000000 := by decide +kernel
  have hflags : flags =
      [⟨.fromDate, "2024-1-1".toList, false⟩, ⟨.title, "rust".toList, false⟩] ++
        ⟨.fromDate, "soon".toList, false⟩ ::
        [⟨.toDate, "2024-1-2".toList, true⟩, ⟨.toDate, "2024-2-29".toList, false⟩] := by
    decide +kernel
  obtain ⟨hshared, hrange⟩ := range_of_query query 1000000 5
  obtain ⟨_, hsame, _⟩ := hshared left hleft right hright
  obtain ⟨_, hfollows, hfallback⟩ := hrange left hleft
  have hsoon : Day.start "soon".toList 1000000 = .error .invalidDate := rfl
  have hleap : Day.stop "2024-2-29".toList 1000000 = .ok 1709251199999 := by decide +kernel
  have hstart := (hfallback _ _ _ _ hflags rfl (by decide)).1 rfl hsoon
  have hdate : left.filters.toDate = some "2024-2-29".toList := rfl
  have hstop : (DateRange.ofFilters left.filters 5).stop = 1709251199999 :=
    DateRange.stop_of_filters hdate hleap 5
  exact ⟨hleft, hright, hsame, hfollows, hstart, hleap, hstop⟩

end ForumQuery
