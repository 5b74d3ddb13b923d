import ForumQuery.Calendar.Day
import ForumQuery.Proofs.Calendar.Days
import ForumQuery.Proofs.Calendar.Reading

/-!
# The bounds of a written day

A day that is written has a first and a last millisecond in each time zone, with two exceptions at
the ends of the calendar in use: where clocks are ahead of UTC its first day begins too early, and
where they are behind its last day ends too late. `bounds_of_day` says where the bounds lie, as a
distance from 1 January 1970.
-/

namespace ForumQuery

namespace Date

/-- The first day of the calendar in use. -/
def firstDay : Date :=
  ⟨firstYear, 1, 1⟩

/-- The last day of the calendar in use. -/
def lastDay : Date :=
  ⟨lastYear, 12, 31⟩

theorem is_valid_iff {date : Date} :
    date.isValid = true ↔ date.IsDay ∧ firstYear ≤ date.year ∧ date.year ≤ lastYear := by
  simp only [is_day_iff, isValid, Bool.and_eq_true, decide_eq_true_eq]
  constructor
  · rintro ⟨⟨⟨⟨⟨hfirst, hlast⟩, hmonth⟩, hmonth'⟩, hday⟩, hday'⟩
    exact ⟨⟨hmonth, hmonth', hday, hday'⟩, hfirst, hlast⟩
  · rintro ⟨⟨hmonth, hmonth', hday, hday'⟩, hfirst, hlast⟩
    exact ⟨⟨⟨⟨⟨hfirst, hlast⟩, hmonth⟩, hmonth'⟩, hday⟩, hday'⟩

theorem first_day_is_day : firstDay.IsDay :=
  (is_valid_iff.1 (by decide)).1

theorem last_day_is_day : lastDay.IsDay :=
  (is_valid_iff.1 (by decide)).1

theorem epoch_is_day : epoch.IsDay :=
  (is_valid_iff.1 (by decide)).1

/-- The days before the first day are those of earlier years. -/
theorem IsDay.earlier_first_day {date : Date} (h : date.IsDay) :
    date.Earlier firstDay ↔ date.year < firstYear := by
  obtain ⟨hmonth, _, hday, _⟩ := is_day_iff.1 h
  simp only [Earlier, firstDay]
  omega

/-- The days after the last day are those of later years. -/
theorem IsDay.last_day_earlier {date : Date} (h : date.IsDay) :
    lastDay.Earlier date ↔ lastYear < date.year := by
  obtain ⟨_, hmonth, _, _⟩ := is_day_iff.1 h
  have hday := h.day_le
  simp only [Earlier, lastDay]
  omega

/-- A day is in use exactly if its number lies between those of the first day and the last one. -/
theorem is_valid_iff_number {date : Date} (h : date.IsDay) :
    date.isValid = true ↔
      firstDay.dayNumber ≤ date.dayNumber ∧ date.dayNumber ≤ lastDay.dayNumber := by
  have hlow : firstYear ≤ date.year ↔ firstDay.dayNumber ≤ date.dayNumber := by
    rw [← Int.not_lt, ← Int.not_lt, day_number_lt_iff h first_day_is_day, h.earlier_first_day]
  have hhigh : date.year ≤ lastYear ↔ date.dayNumber ≤ lastDay.dayNumber := by
    rw [← Int.not_lt, ← Int.not_lt, day_number_lt_iff last_day_is_day h, h.last_day_earlier]
  rw [is_valid_iff, hlow, hhigh]
  exact and_iff_right h

/-- Only days in use are read. -/
theorem read_is_valid {text : Text} {date : Date} (h : read text = .ok date) :
    date.isValid = true :=
  (parse_iff.1 (parse_of_read h)).2

end Date

namespace Offset

/-- A time zone is less than a day from UTC. -/
theorem is_valid_iff {seconds : Int} :
    isValid seconds = true ↔ -86399 ≤ seconds ∧ seconds ≤ 86399 := by
  simp only [isValid, Bool.and_eq_true, decide_eq_true_eq]
  omega

/-- An offset of less than a day counts as it is, and any other one as none. -/
theorem effective_eq (seconds : Int) :
    effective seconds = if -86399 ≤ seconds ∧ seconds ≤ 86399 then seconds else 0 := by
  simp only [effective, isValid, Bool.and_eq_true, decide_eq_true_eq]
  split <;> split <;> omega

theorem effective_bounds (seconds : Int) :
    -86399 ≤ effective seconds ∧ effective seconds ≤ 86399 := by
  rw [effective_eq]
  split <;> omega

end Offset

namespace Day

/-- A day that is not read has no first millisecond. -/
theorem start_of_unread {text : Text} {error : DateError} (h : Date.read text = .error error)
    (offset : Int) : start text offset = .error error := by
  rw [start, h]
  rfl

/-- A day that is not read has no last millisecond. -/
theorem stop_of_unread {text : Text} {error : DateError} (h : Date.read text = .error error)
    (offset : Int) : stop text offset = .error error := by
  rw [stop, h]
  rfl

/-- What clocks show on a day in use names an instant, unless it is still before the calendar in
use, or already after it, in UTC. -/
theorem shifted_eq {date : Date} (h : date.isValid = true) {clock : Int} (hlow : 0 ≤ clock)
    (hhigh : clock < length) (offset : Int) :
    shifted (midnight date + clock) offset =
      if date = Date.firstDay ∧ clock < 1000 * Offset.effective offset ∨
          date = Date.lastDay ∧ length ≤ clock - 1000 * Offset.effective offset then
        .error .invalidDate
      else .ok (midnight date + clock - 1000 * Offset.effective offset) := by
  obtain ⟨hday, _⟩ := Date.is_valid_iff.1 h
  have hnumbers := (Date.is_valid_iff_number hday).1 h
  have hfirst := Date.day_number_inj hday Date.first_day_is_day
  have hlast := Date.day_number_inj hday Date.last_day_is_day
  have hshift := Offset.effective_bounds offset
  rw [shifted]
  -- The shift is less than a day, so it leaves the calendar in use from its outermost days alone.
  generalize Offset.effective offset = shift at hshift ⊢
  have hin : (firstInstant ≤ midnight date + clock - 1000 * shift ∧
      midnight date + clock - 1000 * shift ≤ lastInstant) ↔
        ¬ (date = Date.firstDay ∧ clock < 1000 * shift ∨
          date = Date.lastDay ∧ length ≤ clock - 1000 * shift) := by
    rw [← hfirst, ← hlast]
    show (length * Date.firstDay.dayNumber ≤ length * date.dayNumber + clock - 1000 * shift ∧
      length * date.dayNumber + clock - 1000 * shift ≤
        length * Date.lastDay.dayNumber + (length - 1)) ↔ _
    simp only [length] at hhigh ⊢
    omega
  simp only [hin]
  exact ite_not ..

/-- The first millisecond of a day that is read. -/
theorem start_of_read {text : Text} {date : Date} (h : Date.read text = .ok date) (offset : Int) :
    start text offset =
      if date = Date.firstDay ∧ 0 < Offset.effective offset then .error .invalidDate
      else .ok (midnight date - 1000 * Offset.effective offset) := by
  have hshift := Offset.effective_bounds offset
  have hstart : start text offset = shifted (midnight date + 0) offset := by
    rw [start, h, Int.add_zero]
    rfl
  have hearly : 0 < 1000 * Offset.effective offset ↔ 0 < Offset.effective offset := by omega
  have hlate : ¬ length ≤ 0 - 1000 * Offset.effective offset := by
    simp only [length]
    omega
  rw [hstart, shifted_eq (Date.read_is_valid h) (Int.le_refl 0) (by decide)]
  simp only [hearly, hlate, and_false, or_false, Int.add_zero]

/-- The last millisecond of a day that is read. -/
theorem stop_of_read {text : Text} {date : Date} (h : Date.read text = .ok date) (offset : Int) :
    stop text offset =
      if date = Date.lastDay ∧ Offset.effective offset < 0 then .error .invalidDate
      else .ok (midnight date + (length - 1) - 1000 * Offset.effective offset) := by
  have hshift := Offset.effective_bounds offset
  have hstop : stop text offset = shifted (midnight date + (length - 1)) offset := by
    rw [stop, h]
    rfl
  have hearly : ¬ length - 1 < 1000 * Offset.effective offset := by
    simp only [length]
    omega
  have hlate : length ≤ length - 1 - 1000 * Offset.effective offset ↔
      Offset.effective offset < 0 := by
    omega
  rw [hstop, shifted_eq (Date.read_is_valid h) (by decide) (by decide)]
  simp only [hearly, hlate, and_false, false_or]

/-- Where the first millisecond of a day that is read lies, if there is one. -/
theorem start_eq {text : Text} {date : Date} {offset first : Int} (h : Date.read text = .ok date)
    (hstart : start text offset = .ok first) :
    first = midnight date - 1000 * Offset.effective offset := by
  rw [start_of_read h] at hstart
  split at hstart
  · simp at hstart
  · exact (Except.ok.inj hstart).symm

/-- Where the last millisecond of a day that is read lies, if there is one. -/
theorem stop_eq {text : Text} {date : Date} {offset last : Int} (h : Date.read text = .ok date)
    (hstop : stop text offset = .ok last) :
    last = midnight date + (length - 1) - 1000 * Offset.effective offset := by
  rw [stop_of_read h] at hstop
  split at hstop
  · simp at hstop
  · exact (Except.ok.inj hstop).symm

/-- A shift does not lead out of the calendar in use. -/
theorem shifted_in_use {instant offset utc : Int} (h : shifted instant offset = .ok utc) :
    firstInstant ≤ utc ∧ utc ≤ lastInstant := by
  simp only [shifted] at h
  split at h
  · next hin =>
      obtain rfl := Except.ok.inj h
      exact hin
  · simp at h

/-- The bounds of a day lie in the calendar in use. -/
theorem bound_in_use {text : Text} {offset instant : Int}
    (h : start text offset = .ok instant ∨ stop text offset = .ok instant) :
    firstInstant ≤ instant ∧ instant ≤ lastInstant := by
  cases hread : Date.read text with
  | error error =>
      rw [start_of_unread hread, stop_of_unread hread] at h
      simp at h
  | ok date =>
      simp only [start, stop, hread] at h
      rcases h with hstart | hstop
      · exact shifted_in_use hstart
      · exact shifted_in_use hstop

/-- All whole numbers that come up between a day and its bounds: those of the count of the days
before it, and those in seconds and milliseconds on the way to UTC. -/
def steps (date : Date) (offset : Int) : List Int :=
  let before := date.year - 1
  let ofYear : Nat := Date.daysBeforeMonth (Date.isLeapYear date.year) date.month + date.day
  let shift := Offset.effective offset
  [before, 365 * before, before / 4, before / 100, before / 400, 365 * before + before / 4,
    365 * before + before / 4 - before / 100, Date.daysBeforeYear date.year,
    Date.daysBeforeYear date.year - Date.epochDays, ofYear,
    Date.daysBeforeYear date.year - Date.epochDays + ofYear, date.dayNumber,
    86400 * date.dayNumber, 86400 * date.dayNumber - shift,
    86400 * date.dayNumber + 86399 - shift, midnight date, midnight date + (length - 1),
    1000 * shift, midnight date - 1000 * shift, midnight date + (length - 1) - 1000 * shift]

/-- No step on the way from a day in use to its bounds leaves the signed words of 64 bits. -/
theorem steps_in_words {date : Date} (h : date.isValid = true) (offset : Int) :
    ∀ n ∈ steps date offset, -9223372036854775808 ≤ n ∧ n ≤ 9223372036854775807 := by
  obtain ⟨hday, hyears⟩ := Date.is_valid_iff.1 h
  have hnumbers := (Date.is_valid_iff_number hday).1 h
  rw [show Date.firstDay.dayNumber = -96465292 by decide,
    show Date.lastDay.dayNumber = 95026236 by decide] at hnumbers
  have hshift := Offset.effective_bounds offset
  have hofYear : Date.daysBeforeMonth (Date.isLeapYear date.year) date.month + date.day ≤ 366 := by
    obtain ⟨_, hmonth, _, _⟩ := Date.is_day_iff.1 hday
    have hend := Date.days_before_month_mono (Date.isLeapYear date.year)
      (Nat.le_add_left 1 date.month) (show date.month + 1 ≤ 13 by omega)
    rw [Date.days_of_year] at hend
    exact Nat.le_trans hday.day_of_year_le (Nat.le_trans hend (by split <;> decide))
  -- All steps are linear in the year, the number of the day and the shift, which have bounds now.
  simp only [Date.firstYear, Date.lastYear] at hyears
  simp only [steps, Date.daysBeforeYear, Date.epochDays, midnight, length, List.forall_mem_cons]
  refine ⟨?_, ?_, ?_, ?_, ?_, ?_, ?_, ?_, ?_, ?_, ?_, ?_, ?_, ?_, ?_, ?_, ?_, ?_, ?_, ?_,
    List.forall_mem_nil _⟩
  all_goals omega

/-- A day that cannot be read has no bounds, for the reason for which it cannot be read. A day that
is read lies at one distance from 1 January 1970, and its bounds are so many days, less the offset,
from the beginning of 1970. An offset of a day or more counts as none. Only on the first day of the
calendar in use clocks ahead of UTC have no first millisecond, and only on the last day clocks
behind UTC have no last one. On the way no number leaves the signed words of 64 bits. -/
theorem bounds_of_day (text : Text) (offset : Int) :
    (∀ error, Date.read text = .error error →
      start text offset = .error error ∧ stop text offset = .error error) ∧
    ∀ date, Date.read text = .ok date → ∃ days,
      (∀ other, Date.Distance Date.epoch date other ↔ other = days) ∧
      let shift := if -86399 ≤ offset ∧ offset ≤ 86399 then offset else 0
      start text offset =
        (if date = ⟨-262143, 1, 1⟩ ∧ 0 < shift then .error .invalidDate
          else .ok (86400000 * days - 1000 * shift)) ∧
      stop text offset =
        (if date = ⟨262142, 12, 31⟩ ∧ shift < 0 then .error .invalidDate
          else .ok (86400000 * days - 1000 * shift + 86399999)) ∧
      (∀ first last, start text offset = .ok first → stop text offset = .ok last →
        last - first = 86399999) ∧
      ∀ n ∈ steps date offset, -9223372036854775808 ≤ n ∧ n ≤ 9223372036854775807 := by
  refine ⟨fun error h => ⟨start_of_unread h offset, stop_of_unread h offset⟩, fun date h => ?_⟩
  have hvalid := Date.read_is_valid h
  obtain ⟨hday, _⟩ := Date.is_valid_iff.1 hvalid
  refine ⟨date.dayNumber, fun other => ?_, ?_⟩
  · have hepoch : Date.epoch.dayNumber = 0 := by decide
    rw [Date.distance_iff Date.epoch_is_day hday, hepoch, Int.sub_zero]
  · rw [← Offset.effective_eq]
    intro shift
    have hlast : midnight date + (length - 1) - 1000 * shift =
        86400000 * date.dayNumber - 1000 * shift + 86399999 := by
      show length * date.dayNumber + (length - 1) - 1000 * shift = _
      simp only [length]
      omega
    refine ⟨start_of_read h offset, ?_, ?_, steps_in_words hvalid offset⟩
    · rw [← hlast]
      exact stop_of_read h offset
    · intro first last hstart hstop
      have hfirst := start_eq h hstart
      have hstop := stop_eq h hstop
      simp only [length] at hstop
      omega

/-- Clocks a second ahead of UTC show the end of the first day, but not its beginning, and both
bounds of the last day. The 29 February of a common year has no bounds. -/
theorem bounds_of_day_ends :
    let unread := "1900-2-29".toList
    let first := "-262143-1-1".toList
    let last := " +262142-12-31".toList
    Date.read unread = .error .invalidDate ∧ stop unread 1 = .error .invalidDate ∧
      Date.read first = .ok ⟨-262143, 1, 1⟩ ∧
      Date.Distance Date.epoch ⟨-262143, 1, 1⟩ (-96465292) ∧
      start first 1 = .error .invalidDate ∧ stop first 1 = .ok (-8334601142401001) ∧
      Date.read last = .ok ⟨262142, 12, 31⟩ ∧
      start last 1 = .ok 8210266790399000 ∧ stop last 1 = .ok 8210266876798999 ∧
      (8210266876798999 : Int) - 8210266790399000 = 86399999 := by
  intro unread first last
  have hunread : Date.read unread = .error .invalidDate := rfl
  have hfirst : Date.read first = .ok ⟨-262143, 1, 1⟩ := rfl
  have hlast : Date.read last = .ok ⟨262142, 12, 31⟩ := rfl
  obtain ⟨days, hdistance, hbegins, hends, _⟩ := (bounds_of_day first 1).2 _ hfirst
  have hdays : days = -96465292 :=
    ((hdistance _).1 ((Date.distance_iff Date.epoch_is_day Date.first_day_is_day).2 rfl)).symm
  obtain ⟨lastDays, hlastDistance, hstart, hstop, hlength, _⟩ := (bounds_of_day last 1).2 _ hlast
  have hlastDays : lastDays = 95026236 :=
    ((hlastDistance _).1
      ((Date.distance_iff Date.epoch_is_day Date.last_day_is_day).2 rfl)).symm
  subst hdays hlastDays
  have hends : stop first 1 = .ok (-8334601142401001) := by simpa using hends
  have hstart : start last 1 = .ok 8210266790399000 := by simpa using hstart
  have hstop : stop last 1 = .ok 8210266876798999 := by simpa using hstop
  exact ⟨hunread, ((bounds_of_day unread 1).1 _ hunread).2, hfirst, (hdistance _).2 rfl, hbegins,
    hends, hlast, hstart, hstop, hlength _ _ hstart hstop⟩

end Day

end ForumQuery
