import ForumQuery.Proofs.Calendar.Bounds
import ForumQuery.Proofs.Calendar.Ranges

/-!
# Days without gaps

In one time zone each day begins in the millisecond after the day before it ends, so days neither
overlap nor leave a gap. `days_tile` says this of days as they are written, and that a range from
one day to another is as long as the days of it together.
-/

namespace ForumQuery

namespace Day

variable {left right : Text} {first second : Date}

/-- Of two days that are read, the earlier one has an end and the later one a beginning. -/
theorem bounds_between (hleft : Date.read left = .ok first) (hright : Date.read right = .ok second)
    (hnumber : first.dayNumber < second.dayNumber) (offset : Int) :
    stop left offset = .ok (midnight first + (length - 1) - 1000 * Offset.effective offset) ∧
      start right offset = .ok (midnight second - 1000 * Offset.effective offset) := by
  have hfirst := Date.read_is_valid hleft
  have hsecond := Date.read_is_valid hright
  have hlow := (Date.is_valid_iff_number (Date.is_valid_iff.1 hfirst).1).1 hfirst
  have hhigh := (Date.is_valid_iff_number (Date.is_valid_iff.1 hsecond).1).1 hsecond
  have hnotlast : first ≠ Date.lastDay := by
    intro h
    rw [h] at hnumber
    omega
  have hnotfirst : second ≠ Date.firstDay := by
    intro h
    rw [h] at hnumber
    omega
  rw [stop_of_read hleft, start_of_read hright]
  exact ⟨if_neg fun h => hnotlast h.1, if_neg fun h => hnotfirst h.1⟩

/-- Between the end of a day and the beginning of a later one lie the days between them. -/
theorem stop_add_one {offset last begin : Int} (hleft : Date.read left = .ok first)
    (hright : Date.read right = .ok second) (hlast : stop left offset = .ok last)
    (hbegin : start right offset = .ok begin) :
    begin = last + 1 + length * (second.dayNumber - first.dayNumber - 1) := by
  have hlast := stop_eq hleft hlast
  have hbegin := start_eq hright hbegin
  simp only [midnight, length] at hlast hbegin ⊢
  omega

end Day

/-- A day ends in the millisecond before the next day begins, and before any later day begins. A
range from a day to the same or a later one, both of which resolve, has the length of all days from
the one to the other, whatever the time is now. -/
theorem days_tile (offset : Int) {left right : Text} {first second : Date}
    (hleft : Date.read left = .ok first) (hright : Date.read right = .ok second) :
    (Date.Next first second → ∃ last begin, Day.stop left offset = .ok last ∧
      Day.start right offset = .ok begin ∧ last + 1 = begin) ∧
    (first.Earlier second → ∃ last begin, Day.stop left offset = .ok last ∧
      Day.start right offset = .ok begin ∧ last < begin) ∧
    ∀ (record : SearchRecord) (now begin last : Int),
      record.filters.fromDate = some left → record.filters.toDate = some right →
      record.filters.timeZoneOffset = offset → first.Earlier second ∨ first = second →
      Day.start left offset = .ok begin → Day.stop right offset = .ok last →
      let range := DateRange.ofFilters record.filters now
      range.start = begin ∧ range.stop = last ∧ range.start < range.stop ∧
        ∃ days, (∀ other, Date.Distance first second other ↔ other = days) ∧
          range.stop - range.start + 1 = 86400000 * (days + 1) := by
  have hfirst := (Date.is_valid_iff.1 (Date.read_is_valid hleft)).1
  have hsecond := (Date.is_valid_iff.1 (Date.read_is_valid hright)).1
  refine ⟨fun hnext => ?_, fun hearlier => ?_, ?_⟩
  · have hnumber := hnext.day_number
    obtain ⟨hstop, hstart⟩ := Day.bounds_between hleft hright (by omega) offset
    refine ⟨_, _, hstop, hstart, ?_⟩
    have hgap := Day.stop_add_one hleft hright hstop hstart
    simp only [Day.length] at hgap ⊢
    omega
  · have hnumber := hearlier.day_number_lt hfirst hsecond
    obtain ⟨hstop, hstart⟩ := Day.bounds_between hleft hright hnumber offset
    refine ⟨_, _, hstop, hstart, ?_⟩
    have hgap := Day.stop_add_one hleft hright hstop hstart
    simp only [Day.length] at hgap ⊢
    omega
  · rintro record now begin last hfrom hto rfl horder hstart hstop
    have hnumber : first.dayNumber ≤ second.dayNumber := by
      rcases horder with hearlier | rfl
      · exact Int.le_of_lt (hearlier.day_number_lt hfirst hsecond)
      · exact Int.le_refl _
    have hbegin := Day.start_eq hleft hstart
    have hlast := Day.stop_eq hright hstop
    simp only [Day.midnight, Day.length] at hbegin hlast
    intro range
    have hrangestart : range.start = begin := DateRange.start_of_filters hfrom hstart now
    have hrangestop : range.stop = last := DateRange.stop_of_filters hto hstop now
    exact ⟨hrangestart, hrangestop, by omega, second.dayNumber - first.dayNumber,
      fun _ => Date.distance_iff hfirst hsecond, by omega⟩

/-- The last day before the year zero and its first day, half an hour off whole hours. -/
theorem days_tile_year_zero :
    let left := "-1-12-31".toList
    let right := "0-1-1".toList
    let record : SearchRecord :=
      { filters := { fromDate := some left, toDate := some right, timeZoneOffset := 19800 } }
    let range := DateRange.ofFilters record.filters 0
    Date.read left = .ok ⟨-1, 12, 31⟩ ∧ Date.read right = .ok ⟨0, 1, 1⟩ ∧
      Date.Next ⟨-1, 12, 31⟩ ⟨0, 1, 1⟩ ∧ Date.Earlier ⟨-1, 12, 31⟩ ⟨0, 1, 1⟩ ∧
      (∃ last begin, Day.stop left 19800 = .ok last ∧ Day.start right 19800 = .ok begin ∧
        last + 1 = begin) ∧
      range.start < range.stop ∧ range.stop - range.start + 1 = 86400000 * 2 := by
  intro left right record range
  have hleft : Date.read left = .ok ⟨-1, 12, 31⟩ := rfl
  have hright : Date.read right = .ok ⟨0, 1, 1⟩ := rfl
  have hnext : Date.Next ⟨-1, 12, 31⟩ ⟨0, 1, 1⟩ := .nextYear (-1)
  have hearlier : Date.Earlier ⟨-1, 12, 31⟩ ⟨0, 1, 1⟩ := Or.inl (by decide)
  obtain ⟨htile, _, hrange⟩ := days_tile 19800 hleft hright
  have hstart := (Day.start_of_read hleft 19800).trans (if_neg (by decide))
  have hstop := (Day.stop_of_read hright 19800).trans (if_neg (by decide))
  obtain ⟨_, _, hlt, days, hdistance, hlength⟩ :=
    hrange record 0 _ _ rfl rfl rfl (Or.inl hearlier) hstart hstop
  have hdays : 1 = days := (hdistance 1).1 (.forward _ _ 0 .here hnext)
  subst hdays
  exact ⟨hleft, hright, hnext, hearlier, htile hnext, hlt, hlength⟩

end ForumQuery
