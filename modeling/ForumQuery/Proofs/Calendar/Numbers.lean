import ForumQuery.Proofs.Calendar.Days

/-!
# From numbers to days

A number is taken apart into whole periods of years and a day of the year, and that into month and
day. `of_day_number` says that this finds the day with that number, for every whole number.
-/

namespace ForumQuery.Date

/-- The month of a day of the year has begun by then, and the next one has not. -/
theorem month_at_spec (leap : Bool) {dayOfYear bound : Nat} (hbound : 1 ≤ bound)
    (h : dayOfYear < daysBeforeMonth leap (bound + 1)) :
    1 ≤ monthAt leap dayOfYear bound ∧ monthAt leap dayOfYear bound ≤ bound ∧
      daysBeforeMonth leap (monthAt leap dayOfYear bound) ≤ dayOfYear ∧
      dayOfYear < daysBeforeMonth leap (monthAt leap dayOfYear bound + 1) := by
  induction hbound with
  | refl =>
      have hfirst : monthAt leap dayOfYear 1 = 1 := if_pos (Nat.zero_le dayOfYear)
      rw [hfirst]
      exact ⟨Nat.le_refl 1, Nat.le_refl 1, Nat.zero_le dayOfYear, h⟩
  | @step bound hbound ih =>
      rw [monthAt]
      by_cases hbegun : daysBeforeMonth leap (bound + 1) ≤ dayOfYear
      · rw [if_pos hbegun]
        exact ⟨Nat.le_add_left 1 bound, Nat.le_refl _, hbegun, h⟩
      · rw [if_neg hbegun]
        obtain ⟨hfirst, hlast, hbounds⟩ := ih (Nat.lt_of_not_le hbegun)
        exact ⟨hfirst, Nat.le_succ_of_le hlast, hbounds⟩

/-- A number below the length of the year gives the day of the year with that number. -/
theorem of_day_of_year {year : Int} {dayOfYear : Nat}
    (h : dayOfYear < daysBeforeMonth (isLeapYear year) 13) :
    (ofDayOfYear year dayOfYear).IsDay ∧
      (ofDayOfYear year dayOfYear).dayNumber = daysBeforeYear year - epochDays + dayOfYear := by
  obtain ⟨hfirst, hlast, hbegun, hend⟩ := month_at_spec (isLeapYear year) (by decide) h
  have hlength := days_before_month_succ (isLeapYear year) hfirst
  constructor
  · rw [is_day_iff]
    simp only [ofDayOfYear]
    omega
  · simp only [ofDayOfYear, dayNumber]
    omega

/-- The days before a year, from the whole periods of 400, 100, 4 and 1 years before it. -/
theorem days_before_year_periods (era : Int) {century group rest : Nat} (hcentury : century ≤ 3)
    (hgroup : group ≤ 24) (hrest : rest ≤ 3) :
    daysBeforeYear (400 * era + (100 * century + 4 * group + rest + 1 : Nat)) =
      146097 * era + (36524 * century + 1461 * group + 365 * rest : Nat) := by
  simp only [daysBeforeYear]
  omega

/-- A year is a leap year if it is the last of its four years, unless these end one of the first
three centuries. -/
theorem is_leap_periods (era : Int) {century group rest : Nat} (hcentury : century ≤ 3)
    (hgroup : group ≤ 24) (hrest : rest ≤ 3) :
    IsLeap (400 * era + (100 * century + 4 * group + rest + 1 : Nat)) ↔
      rest = 3 ∧ (group = 24 → century = 3) := by
  simp only [IsLeap]
  omega

/-- Whole periods and a day of the year give the day that is so many days later. -/
theorem of_periods (era : Int) {century group rest dayOfYear : Nat} (hcentury : century ≤ 3)
    (hgroup : group ≤ 24) (hrest : rest ≤ 3) (hday : dayOfYear ≤ 365)
    (hlast : dayOfYear = 365 → rest = 3 ∧ (group = 24 → century = 3)) :
    let date := ofDayOfYear (400 * era + (100 * century + 4 * group + rest + 1 : Nat)) dayOfYear
    date.IsDay ∧ date.dayNumber =
      146097 * era + (36524 * century + 1461 * group + 365 * rest + dayOfYear : Nat)
        - epochDays := by
  have hyear := days_before_year_periods era hcentury hgroup hrest
  have hleap := is_leap_periods era hcentury hgroup hrest
  generalize 400 * era + (100 * century + 4 * group + rest + 1 : Nat) = year at hyear hleap ⊢
  have hbelow : dayOfYear < daysBeforeMonth (isLeapYear year) 13 := by
    rw [days_of_year]
    -- Only for a 366th day it matters which year it is.
    by_cases hfull : dayOfYear = 365
    · rw [if_pos (is_leap_year_iff.2 (hleap.2 (hlast hfull)))]
      omega
    · split <;> omega
  obtain ⟨hexists, hnumber⟩ := of_day_of_year hbelow
  refine ⟨hexists, ?_⟩
  rw [hnumber, hyear]
  omega

/-- A day of an era of 400 years, taken apart into whole periods of 100, 4 and 1 years and a day of
the year. There is a 366th day only where the year is a leap year. -/
theorem era_periods {inEra : Nat} (h : inEra < 146097) :
    let century := min (inEra / 36524) 3
    let inCentury := inEra - 36524 * century
    let group := inCentury / 1461
    let inGroup := inCentury % 1461
    let rest := min (inGroup / 365) 3
    let dayOfYear := inGroup - 365 * rest
    century ≤ 3 ∧ group ≤ 24 ∧ rest ≤ 3 ∧ dayOfYear ≤ 365 ∧
      inEra = 36524 * century + 1461 * group + 365 * rest + dayOfYear ∧
      (dayOfYear = 365 → rest = 3 ∧ (group = 24 → century = 3)) := by
  intro century inCentury group inGroup rest dayOfYear
  have hcentury : century ≤ 3 := Nat.min_le_right _ _
  have hinCentury : 36524 * century + inCentury = inEra ∧
      (inCentury < 36524 ∨ inCentury = 36524 ∧ century = 3) := by
    omega
  have hgroup : 1461 * group + inGroup = inCentury ∧ inGroup < 1461 := by omega
  have hrest : rest ≤ 3 := Nat.min_le_right _ _
  have hdayOfYear : 365 * rest + dayOfYear = inGroup ∧ dayOfYear ≤ 365 ∧
      (dayOfYear = 365 → rest = 3) := by
    omega
  refine ⟨hcentury, by omega, hrest, hdayOfYear.2.1, by omega, fun hlast => ?_⟩
  have hrestlast := hdayOfYear.2.2 hlast
  exact ⟨hrestlast, by omega⟩

/-- A number gives the day with that number. -/
theorem of_day_number (number : Int) :
    (ofDayNumber number).IsDay ∧ (ofDayNumber number).dayNumber = number := by
  have hera : ((number + epochDays) % 146097).toNat < 146097 := by omega
  obtain ⟨hcentury, hgroup, hrest, hday, hsum, hlast⟩ := era_periods hera
  obtain ⟨hexists, hnumber⟩ :=
    of_periods ((number + epochDays) / 146097) hcentury hgroup hrest hday hlast
  refine ⟨hexists, hnumber.trans ?_⟩
  rw [← hsum]
  omega

end ForumQuery.Date
