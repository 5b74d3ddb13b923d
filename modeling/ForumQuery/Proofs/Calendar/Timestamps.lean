import ForumQuery.Calendar.Timestamp
import ForumQuery.CommandLine.Run
import ForumQuery.Proofs.Calendar.Bounds
import ForumQuery.Proofs.Calendar.Numbers
import ForumQuery.Proofs.Calendar.Ranges
import ForumQuery.Proofs.Calendar.Reading
import Mathlib.Algebra.Group.Nat.Defs

/-!
# Timestamps name their instants

`Timestamp.Writes` says which text writes which instant: a text that is read as a date, and a time
of day in fields of fixed width. Such a text writes one instant only (`Writes.unique`), and the
timestamp of an instant in the calendar in use writes that instant (`writes_text`).
-/

namespace ForumQuery

namespace Timestamp

/-- The text is the number in exactly so many ASCII digits. -/
structure IsField (width : Nat) (text : Text) (n : Nat) : Prop where
  length : text.length = width
  digits : ∀ c ∈ text, c.isDigit = true
  value : Text.digitsValue text = n

/-- `Writes text instant` says that the text writes the instant: a date that is read, and the time
since that day began, in hours, minutes, seconds and milliseconds. -/
inductive Writes : Text → Int → Prop where
  | intro (date hours minutes seconds millis) (day : Date) (begin : Int)
      (hour minute second milli : Nat) :
      Date.read date = .ok day → Day.start date 0 = .ok begin →
      IsField 2 hours hour → hour < 24 → IsField 2 minutes minute → minute < 60 →
      IsField 2 seconds second → second < 60 → IsField 3 millis milli →
      Writes
        (date ++ 'T' :: (hours ++ ':' :: (minutes ++ ':' :: (seconds ++ '.' :: (millis ++ ['Z'])))))
        (begin + (((hour * 60 + minute) * 60 + second) * 1000 + milli : Nat))

/-- A text writes at most one instant: its fields stand at fixed places from the end. -/
theorem Writes.unique {text : Text} {first second : Int} (hfirst : Writes text first)
    (hsecond : Writes text second) : first = second := by
  cases hfirst with
  | intro date hours minutes seconds millis day begin hour minute second milli _ hbegin hhours _
      hminutes _ hseconds _ hmillis =>
  generalize htext : date ++ 'T' :: (hours ++ ':' :: (minutes ++ ':' :: (seconds ++ '.' ::
    (millis ++ ['Z'])))) = text at hsecond
  cases hsecond with
  | intro date' hours' minutes' seconds' millis' day' begin' hour' minute' second' milli' _ hbegin'
      hhours' _ hminutes' _ hseconds' _ hmillis' =>
  obtain ⟨hdate, htime⟩ := List.append_inj' htext
    (by simp [hhours.length, hminutes.length, hseconds.length, hmillis.length, hhours'.length,
      hminutes'.length, hseconds'.length, hmillis'.length])
  obtain ⟨hhour, htime⟩ := List.append_inj (List.cons.inj htime).2
    (hhours.length.trans hhours'.length.symm)
  obtain ⟨hminute, htime⟩ := List.append_inj (List.cons.inj htime).2
    (hminutes.length.trans hminutes'.length.symm)
  obtain ⟨hsecond, htime⟩ := List.append_inj (List.cons.inj htime).2
    (hseconds.length.trans hseconds'.length.symm)
  obtain ⟨hmilli, _⟩ := List.append_inj (List.cons.inj htime).2
    (hmillis.length.trans hmillis'.length.symm)
  subst hdate hhour hminute hsecond hmilli
  obtain rfl := Except.ok.inj (hbegin.symm.trans hbegin')
  rw [← hhours.value, ← hhours'.value, ← hminutes.value, ← hminutes'.value, ← hseconds.value,
    ← hseconds'.value, ← hmillis.value, ← hmillis'.value]

/-! ## Padded numbers -/

theorem padded_is_digits (width n : Nat) : Text.IsDigits (padded width n) := by
  constructor
  · simp [padded, Text.digits_ne_nil]
  · intro c hc
    simp only [padded, List.mem_append, List.mem_replicate] at hc
    rcases hc with ⟨_, rfl⟩ | hc
    · decide
    · exact Text.isDigit_of_mem_digits hc

/-- Zeros in front do not change a number. -/
theorem padded_value (width n : Nat) : Text.digitsValue (padded width n) = n := by
  rw [Text.digitsValue, padded, Nat.ofDigitChars_append, Nat.ofDigitChars_replicate_zero,
    Nat.mul_zero, Text.digits, Nat.ofDigitChars_ten_toDigits]

/-- A number that fits a limit stays within it when it is padded to no more. -/
theorem padded_length_le {width limit n : Nat} (hwidth : width ≤ limit) (hlimit : 0 < limit)
    (h : n < 10 ^ limit) : (padded width n).length ≤ limit := by
  have hlength : (Text.digits n).length ≤ limit :=
    (Nat.length_toDigits_le_iff (by decide) hlimit).2 h
  simp only [padded, List.length_append, List.length_replicate]
  omega

/-- A number that fits has the width to which it is padded. -/
theorem padded_length {width n : Nat} (hwidth : 0 < width) (h : n < 10 ^ width) :
    (padded width n).length = width := by
  refine Nat.le_antisymm (padded_length_le (Nat.le_refl width) hwidth h) ?_
  simp only [padded, List.length_append, List.length_replicate]
  omega

/-- A number that fits is a field. -/
theorem padded_is_field {width n : Nat} (hwidth : 0 < width) (h : n < 10 ^ width) :
    IsField width (padded width n) n :=
  ⟨padded_length hwidth h, (padded_is_digits width n).2, padded_value width n⟩

/-! ## Dates and times -/

end Timestamp

namespace Date

open Timestamp (padded padded_is_digits padded_value padded_length_le)

/-- A year with zeros in front up to the given width, and a sign if it needs one. -/
def yearText (width : Nat) (year : Int) : Text :=
  if year < 0 then '-' :: padded width year.natAbs
  else if year ≤ 9999 then padded width year.natAbs
  else '+' :: padded width year.natAbs

/-- A date with zeros in front of its numbers up to the given widths. -/
def text (yearWidth monthWidth dayWidth : Nat) (date : Date) : Text :=
  yearText yearWidth date.year ++ '-' :: padded monthWidth date.month
    ++ '-' :: padded dayWidth date.day

/-- A year that is padded to at most four digits writes that year. -/
theorem writes_year {width : Nat} (hwidth : width ≤ 4) (year : Int) :
    WritesYear (yearText width year) year := by
  have hdigits := padded_is_digits width year.natAbs
  have hvalue := padded_value width year.natAbs
  unfold yearText
  split
  · next hneg =>
      have hwrites := WritesYear.minus _ hdigits
      rwa [hvalue, show -(year.natAbs : Int) = year by omega] at hwrites
  · next hnonneg =>
      have habs : (year.natAbs : Int) = year := by omega
      split
      · next hle =>
          have hlength := padded_length_le hwidth (by decide) (show year.natAbs < 10 ^ 4 by omega)
          have hwrites := WritesYear.bare _ hdigits hlength
          rwa [hvalue, habs] at hwrites
      · have hwrites := WritesYear.plus _ hdigits
        rwa [hvalue, habs] at hwrites

/-- The number of a month or day that is padded to at most two digits writes that number. -/
theorem writes_part {width n : Nat} (hwidth : width ≤ 2) (h : n < 100) :
    WritesPart ('-' :: padded width n) n := by
  have hwrites := WritesPart.intro [] (padded width n) (by simp) (padded_is_digits width n)
    (padded_length_le hwidth (by decide) h)
  rwa [padded_value, List.nil_append] at hwrites

/-- A date that is padded to at most the usual widths writes that date. -/
theorem writes_text {yearWidth monthWidth dayWidth : Nat} {date : Date} (h : date.IsDay)
    (hyear : yearWidth ≤ 4) (hmonth : monthWidth ≤ 2) (hday : dayWidth ≤ 2) :
    Writes (text yearWidth monthWidth dayWidth date) date := by
  have hmonth' : date.month < 100 := by
    obtain ⟨_, hlast, _⟩ := is_day_iff.1 h
    omega
  have hday' : date.day < 100 := Nat.lt_of_le_of_lt h.day_le (by decide)
  rw [text, List.append_assoc]
  exact .intro _ _ _ _ (writes_year hyear date.year) (writes_part hmonth hmonth')
    (writes_part hday hday')

end Date

namespace Timestamp

/-- The date of a timestamp writes that date. -/
theorem writes_date {day : Date} (h : day.IsDay) : Date.Writes (date day) day :=
  Date.writes_text h (Nat.le_refl 4) (Nat.le_refl 2) (Nat.le_refl 2)

/-- The timestamp of a time of day, on a day in use, writes the instant that is so many milliseconds
after the day began. -/
theorem writes_of_day {day : Date} (hday : day.isValid = true) {millis : Nat}
    (hmillis : millis < 86400000) :
    Writes (date day ++ 'T' :: time millis ++ ['Z']) (Day.midnight day + millis) := by
  have hread := Date.read_of_writes (writes_date (Date.is_valid_iff.1 hday).1) hday
  have hbegin : Day.start (date day) 0 = .ok (Day.midnight day) := by
    simp [Day.start_of_read hread, Offset.effective_eq]
  have hwrites := Writes.intro _ _ _ _ _ day (Day.midnight day) _ _ _ _ hread hbegin
    (padded_is_field (n := millis / 1000 / 3600) (by decide) (by omega)) (by omega)
    (padded_is_field (n := millis / 1000 / 60 % 60) (by decide) (by omega)) (by omega)
    (padded_is_field (n := millis / 1000 % 60) (by decide) (by omega)) (by omega)
    (padded_is_field (n := millis % 1000) (by decide) (by omega))
  have hsum : ((millis / 1000 / 3600 * 60 + millis / 1000 / 60 % 60) * 60 + millis / 1000 % 60)
      * 1000 + millis % 1000 = millis := by
    omega
  rw [hsum] at hwrites
  simpa [time] using hwrites

/-- The timestamp of an instant in the calendar in use writes that instant. -/
theorem writes_text {instant : Int} (hfirst : Day.firstInstant ≤ instant)
    (hlast : instant ≤ Day.lastInstant) : Writes (text instant) instant := by
  obtain ⟨hday, hnumber⟩ := Date.of_day_number (instant / Day.length)
  rw [text, if_pos ⟨hfirst, hlast⟩]
  generalize Date.ofDayNumber (instant / Day.length) = day at hday hnumber ⊢
  have hlow : Day.length * Date.firstDay.dayNumber ≤ instant := hfirst
  have hhigh : instant ≤ Day.length * Date.lastDay.dayNumber + (Day.length - 1) := hlast
  simp only [Day.length] at hnumber hlow hhigh ⊢
  have hvalid := (Date.is_valid_iff_number hday).2 ⟨by omega, by omega⟩
  have hsum : Day.midnight day + ((instant % 86400000).toNat : Int) = instant := by
    rw [Day.midnight, hnumber, Day.length]
    omega
  have hwrites := writes_of_day hvalid (show (instant % 86400000).toNat < 86400000 by omega)
  rwa [hsum] at hwrites

/-- A text that writes an instant ends with the sign of UTC. -/
theorem Writes.ends {text : Text} {instant : Int} (h : Writes text instant) :
    ['Z'] <:+ text := by
  cases h with
  | intro date hours minutes seconds millis =>
      refine ⟨date ++ 'T' :: (hours ++ ':' :: (minutes ++ ':' :: (seconds ++ '.' :: millis))), ?_⟩
      simp

/-- Only instants outside the calendar in use have no timestamp. -/
theorem text_out_of_range_iff (instant : Int) :
    text instant = "out of range".toList ↔
      instant < Day.firstInstant ∨ Day.lastInstant < instant := by
  constructor
  · intro htext
    by_cases hrange : Day.firstInstant ≤ instant ∧ instant ≤ Day.lastInstant
    · have hends := (writes_text hrange.1 hrange.2).ends
      rw [htext] at hends
      exact absurd hends (by decide)
    · omega
  · intro hrange
    rw [text, if_neg (by omega)]

end Timestamp

/-- `IsLine label instant line` says that the line shows the instant after its label: as a number,
and in brackets as a text that writes it. -/
def DateRange.IsLine (label : String) (instant : Int) (line : Text) : Prop :=
  ∃ stamp, Timestamp.Writes stamp instant ∧
    line = label.toList ++ (Text.decimal instant ++ " (".toList ++ stamp ++ [')'])

/-- The bound of a day has a line. -/
theorem DateRange.is_line_instant (label : String) {text : Text} {offset instant : Int}
    (h : Day.start text offset = .ok instant ∨ Day.stop text offset = .ok instant) :
    DateRange.IsLine label instant (label.toList ++ DateRange.instant instant) := by
  obtain ⟨hfirst, hlast⟩ := Day.bound_in_use h
  exact ⟨Timestamp.text instant, Timestamp.writes_text hfirst hlast, rfl⟩

/-- The listing of two dates has a line for each side, which shows the bound of its date if that
resolves. -/
theorem CommandLine.dates_lines {settings : Settings} {given : Option Int} {offset : Int}
    (hoffset : settledOffset given settings = .ok offset) (now : Int) (first last : Option Text) :
    ∃ startLine stopLine,
      (dates settings false now first last given).result =
        .ok (Text.unlines [startLine, stopLine]) ∧
      (∀ text instant, first = some text → Day.start text offset = .ok instant →
        DateRange.IsLine "start: " instant startLine) ∧
      ∀ text instant, last = some text → Day.stop text offset = .ok instant →
        DateRange.IsLine "end: " instant stopLine := by
  have hrequired : requiredOffset given settings = .ok offset := by
    rw [requiredOffset, hoffset]
    rfl
  let filters : Filters := { fromDate := first, toDate := last, timeZoneOffset := offset }
  let range := DateRange.ofFilters filters now
  refine ⟨"start: ".toList ++ DateRange.instant range.start,
    "end: ".toList ++ DateRange.instant range.stop, ?_, ?_, ?_⟩
  · rw [dates, hrequired]
    rfl
  · intro text instant hfirst hstart
    have hdate : filters.fromDate = some text := hfirst
    have hrange : range.start = instant := DateRange.start_of_filters hdate hstart now
    rw [hrange]
    exact DateRange.is_line_instant "start: " (Or.inl hstart)
  · intro text instant hlast hstop
    have hdate : filters.toDate = some text := hlast
    have hrange : range.stop = instant := DateRange.stop_of_filters hdate hstop now
    rw [hrange]
    exact DateRange.is_line_instant "end: " (Or.inr hstop)

/-- Exactly the instants from the beginning of the first day in UTC to the end of the last one have
a timestamp, which writes the instant and no other. The bounds of a day are such instants, whatever
the time zone, so the listing of two dates has a timestamp for each of them that resolves. -/
theorem instant_of_timestamp :
    ∃ earliest latest,
      Day.start "-262143-1-1".toList 0 = .ok earliest ∧
      Day.stop "+262142-12-31".toList 0 = .ok latest ∧
      (∀ instant, Timestamp.text instant = "out of range".toList ↔
        instant < earliest ∨ latest < instant) ∧
      (∀ instant, earliest ≤ instant → instant ≤ latest →
        Timestamp.Writes (Timestamp.text instant) instant) ∧
      (∀ left right, earliest ≤ left → left ≤ latest → earliest ≤ right → right ≤ latest →
        Timestamp.text left = Timestamp.text right → left = right) ∧
      (∀ text offset instant,
        Day.start text offset = .ok instant ∨ Day.stop text offset = .ok instant →
          earliest ≤ instant ∧ instant ≤ latest) ∧
      ∀ settings given offset, CommandLine.settledOffset given settings = .ok offset →
        ∀ now first last, ∃ startLine stopLine,
          (CommandLine.dates settings false now first last given).result =
            .ok (Text.unlines [startLine, stopLine]) ∧
          (∀ text instant, first = some text → Day.start text offset = .ok instant →
            DateRange.IsLine "start: " instant startLine) ∧
          ∀ text instant, last = some text → Day.stop text offset = .ok instant →
            DateRange.IsLine "end: " instant stopLine := by
  have hfirst : Date.read "-262143-1-1".toList = .ok Date.firstDay := rfl
  have hlast : Date.read "+262142-12-31".toList = .ok Date.lastDay := rfl
  have hearliest : Day.start "-262143-1-1".toList 0 = .ok Day.firstInstant :=
    (Day.start_of_read hfirst 0).trans (if_neg (by decide))
  have hlatest : Day.stop "+262142-12-31".toList 0 = .ok Day.lastInstant :=
    (Day.stop_of_read hlast 0).trans (if_neg (by decide))
  refine ⟨Day.firstInstant, Day.lastInstant, hearliest, hlatest, Timestamp.text_out_of_range_iff,
    fun _ => Timestamp.writes_text, ?_, fun _ _ _ => Day.bound_in_use,
    fun _ _ _ => CommandLine.dates_lines⟩
  intro left right hleft hleft' hright hright' htext
  have hwrites := Timestamp.writes_text hleft hleft'
  rw [htext] at hwrites
  exact hwrites.unique (Timestamp.writes_text hright hright')

/-- The last millisecond before the year zero and the first one of it. -/
theorem instant_of_timestamp_year_zero :
    let before : Int := -62167219200001
    let after : Int := -62167219200000
    let stamp := "-0001-12-31T23:59:59.999Z".toList
    Day.stop "-1-12-31".toList 0 = .ok before ∧ Day.start "0-1-1".toList 0 = .ok after ∧
      Timestamp.text before = stamp ∧ Timestamp.Writes stamp before ∧
      Timestamp.text before ≠ Timestamp.text after ∧
      CommandLine.settledOffset none {} = .ok 0 ∧
      ∃ startLine stopLine,
        (CommandLine.dates {} false 0 (some "0-1-1".toList) (some "-1-12-31".toList) none).result =
          .ok (Text.unlines [startLine, stopLine]) ∧
        DateRange.IsLine "start: " after startLine ∧ DateRange.IsLine "end: " before stopLine := by
  intro before after stamp
  have hbefore : Date.read "-1-12-31".toList = .ok ⟨-1, 12, 31⟩ := rfl
  have hafter : Date.read "0-1-1".toList = .ok ⟨0, 1, 1⟩ := rfl
  have hstop : Day.stop "-1-12-31".toList 0 = .ok before :=
    (Day.stop_of_read hbefore 0).trans (if_neg (by decide))
  have hstart : Day.start "0-1-1".toList 0 = .ok after :=
    (Day.start_of_read hafter 0).trans (if_neg (by decide))
  have hstamp : Timestamp.text before = stamp := by decide +kernel
  have hoffset : CommandLine.settledOffset none {} = .ok 0 := rfl
  obtain ⟨_, _, _, _, _, hwrites, hinjective, hbounds, hlines⟩ := instant_of_timestamp
  obtain ⟨hlow, hhigh⟩ := hbounds _ _ _ (Or.inr hstop)
  obtain ⟨hlow', hhigh'⟩ := hbounds _ _ _ (Or.inl hstart)
  obtain ⟨startLine, stopLine, hresult, hstartLine, hstopLine⟩ :=
    hlines {} none 0 hoffset 0 (some "0-1-1".toList) (some "-1-12-31".toList)
  refine ⟨hstop, hstart, hstamp, hstamp ▸ hwrites before hlow hhigh, fun h => ?_, hoffset,
    startLine, stopLine, hresult, hstartLine _ _ rfl hstart, hstopLine _ _ rfl hstop⟩
  exact absurd (hinjective before after hlow hhigh hlow' hhigh' h) (by decide)

end ForumQuery
