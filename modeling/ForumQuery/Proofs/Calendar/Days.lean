import ForumQuery.Calendar.Date
import Mathlib.Data.Int.Init

/-!
# The calendar from day to day

`MonthHas` gives the days of a month by the Gregorian rule, and `Next` says which day comes after
which, without counting. `Distance` counts the steps of a walk from day to day. The main
statements are `distance_iff`, by which the number of a day is its distance from 1 January 1970,
and `day_number_lt_iff`, by which earlier days have lower numbers.
-/

namespace ForumQuery.Date

/-- Four divides the year; and if a hundred does, so does four hundred. -/
def IsLeap (year : Int) : Prop :=
  4 ∣ year ∧ (100 ∣ year → 400 ∣ year)

/-- `MonthHas year month days` says that the month has that many days in that year. Only February
depends on the year. -/
inductive MonthHas (year : Int) : Nat → Nat → Prop where
  | long (month) : month ∈ [1, 3, 5, 7, 8, 10, 12] → MonthHas year month 31
  | short (month) : month ∈ [4, 6, 9, 11] → MonthHas year month 30
  | leapFebruary : IsLeap year → MonthHas year 2 29
  | commonFebruary : ¬ IsLeap year → MonthHas year 2 28

/-- The day exists, in whatever year. -/
inductive IsDay : Date → Prop where
  | intro (year month day days) :
      MonthHas year month days → 1 ≤ day → day ≤ days → IsDay ⟨year, month, day⟩

/-- `Next date next` says that the one day is the day before the other. -/
inductive Next : Date → Date → Prop where
  | sameMonth (year month day days) :
      MonthHas year month days → 1 ≤ day → day < days →
      Next ⟨year, month, day⟩ ⟨year, month, day + 1⟩
  | nextMonth (year month days) :
      MonthHas year month days → month < 12 → Next ⟨year, month, days⟩ ⟨year, month + 1, 1⟩
  | nextYear (year) : Next ⟨year, 12, 31⟩ ⟨year + 1, 1, 1⟩

/-- `Distance origin date days` says that a walk from day to day leads from the one to the other,
with so many steps to the day after more than steps to the day before. -/
inductive Distance (origin : Date) : Date → Int → Prop where
  | here : Distance origin origin 0
  | forward (date next days) :
      Distance origin date days → Next date next → Distance origin next (days + 1)
  | back (date previous days) :
      Distance origin date days → Next previous date → Distance origin previous (days - 1)

/-- The one day is before the other: by year, then month, then day. -/
def Earlier (left right : Date) : Prop :=
  left.year < right.year ∨ left.year = right.year ∧
    (left.month < right.month ∨ left.month = right.month ∧ left.day < right.day)

/-- 1 January 1970. -/
def epoch : Date :=
  ⟨1970, 1, 1⟩

/-! ## Months and years -/

theorem is_leap_year_iff {year : Int} : isLeapYear year = true ↔ IsLeap year := by
  simp only [isLeapYear, IsLeap, Bool.and_eq_true, Bool.or_eq_true, beq_iff_eq, bne_iff_ne]
  omega

/-- The length of a month is the one that the Gregorian rule gives. -/
theorem month_has_iff {year : Int} {month days : Nat} :
    MonthHas year month days ↔
      1 ≤ month ∧ month ≤ 12 ∧ days = monthLength (isLeapYear year) month := by
  constructor
  · intro h
    cases h with
    | long _ hmonth =>
        simp only [List.mem_cons, List.not_mem_nil, or_false] at hmonth
        rcases hmonth with rfl | rfl | rfl | rfl | rfl | rfl | rfl <;> simp [monthLength]
    | short _ hmonth =>
        simp only [List.mem_cons, List.not_mem_nil, or_false] at hmonth
        rcases hmonth with rfl | rfl | rfl | rfl <;> simp [monthLength]
    | leapFebruary hleap => simp [monthLength, is_leap_year_iff.2 hleap]
    | commonFebruary hcommon => simp [monthLength, mt is_leap_year_iff.1 hcommon]
  · rintro ⟨hlow, hhigh, rfl⟩
    by_cases hshort : month ∈ [4, 6, 9, 11]
    · have hlength : monthLength (isLeapYear year) month = 30 := by
        simp only [List.mem_cons, List.not_mem_nil, or_false] at hshort
        simp only [monthLength, if_neg (show month ≠ 2 by omega), if_pos hshort]
      rw [hlength]
      exact .short month hshort
    · by_cases hfebruary : month = 2
      · subst hfebruary
        cases hleap : isLeapYear year with
        | true => exact .leapFebruary (is_leap_year_iff.1 hleap)
        | false => exact .commonFebruary (mt is_leap_year_iff.2 (by simp [hleap]))
      · have hlong : month ∈ [1, 3, 5, 7, 8, 10, 12] := by
          simp only [List.mem_cons, List.not_mem_nil, or_false] at hshort ⊢
          omega
        have hlength : monthLength (isLeapYear year) month = 31 := by
          simp only [List.mem_cons, List.not_mem_nil, or_false] at hshort
          simp only [monthLength, if_neg hfebruary, if_neg hshort]
        rw [hlength]
        exact .long month hlong

theorem is_day_iff {date : Date} :
    date.IsDay ↔ 1 ≤ date.month ∧ date.month ≤ 12 ∧ 1 ≤ date.day ∧
      date.day ≤ monthLength (isLeapYear date.year) date.month := by
  constructor
  · rintro ⟨year, month, day, days, hmonth, hlow, hhigh⟩
    obtain ⟨hfirst, hlast, rfl⟩ := month_has_iff.1 hmonth
    exact ⟨hfirst, hlast, hlow, hhigh⟩
  · rintro ⟨hfirst, hlast, hlow, hhigh⟩
    exact .intro _ _ _ _ (month_has_iff.2 ⟨hfirst, hlast, rfl⟩) hlow hhigh

/-- No month is longer than 31 days. -/
theorem IsDay.day_le {date : Date} (h : date.IsDay) : date.day ≤ 31 := by
  obtain ⟨year, month, day, days, hlength, _, hday⟩ := h
  cases hlength <;> exact Nat.le_trans hday (by decide)

/-- A month begins where the one before it ends. -/
theorem days_before_month_succ (leap : Bool) {month : Nat} (h : 1 ≤ month) :
    daysBeforeMonth leap (month + 1) = daysBeforeMonth leap month + monthLength leap month := by
  obtain ⟨before, rfl⟩ : ∃ before, month = before + 1 := ⟨month - 1, by omega⟩
  rfl

theorem days_before_month_mono (leap : Bool) {month later : Nat} (hmonth : 1 ≤ month)
    (h : month ≤ later) : daysBeforeMonth leap month ≤ daysBeforeMonth leap later := by
  induction h with
  | refl => exact Nat.le_refl _
  | step hlater ih =>
      rw [days_before_month_succ leap (Nat.le_trans hmonth hlater)]
      exact Nat.le_add_right_of_le ih

/-- The twelve months of a year have 365 days, or 366 in a leap year. -/
theorem days_of_year (leap : Bool) : daysBeforeMonth leap 13 = if leap then 366 else 365 := by
  cases leap <;> rfl

/-- A year begins where the one before it ends, after its twelfth month. -/
theorem days_before_year_succ (year : Int) :
    daysBeforeYear (year + 1) = daysBeforeYear year + daysBeforeMonth (isLeapYear year) 13 := by
  rw [days_of_year]
  by_cases hleap : isLeapYear year = true
  · rw [if_pos hleap]
    rw [is_leap_year_iff, IsLeap] at hleap
    simp only [daysBeforeYear]
    omega
  · rw [if_neg hleap]
    rw [is_leap_year_iff, IsLeap] at hleap
    simp only [daysBeforeYear]
    omega

theorem days_before_year_mono {year later : Int} (h : year ≤ later) :
    daysBeforeYear year ≤ daysBeforeYear later := by
  simp only [daysBeforeYear]
  omega

/-! ## Counting days -/

theorem Next.left {date next : Date} (h : Next date next) : date.IsDay := by
  cases h with
  | sameMonth year month day days hmonth hlow hhigh =>
      exact .intro _ _ _ _ hmonth hlow (Nat.le_of_lt hhigh)
  | nextMonth year month days hmonth _ =>
      refine .intro _ _ _ _ hmonth ?_ (Nat.le_refl _)
      cases hmonth <;> decide
  | nextYear year => exact .intro _ _ _ _ (.long 12 (by decide)) (by decide) (by decide)

theorem Next.right {date next : Date} (h : Next date next) : next.IsDay := by
  rw [is_day_iff]
  cases h with
  | sameMonth year month day days hmonth hlow hhigh =>
      obtain ⟨hfirst, hlast, rfl⟩ := month_has_iff.1 hmonth
      exact ⟨hfirst, hlast, by simp, hhigh⟩
  | nextMonth year month days hmonth hlast =>
      obtain ⟨hfirst, _, _⟩ := month_has_iff.1 hmonth
      have hpos : 1 ≤ monthLength (isLeapYear year) (month + 1) := by
        unfold monthLength
        repeat' split
        all_goals decide
      exact ⟨by simp, hlast, Nat.le_refl 1, hpos⟩
  | nextYear year => simp [monthLength]

/-- One step to the day after adds one. -/
theorem Next.day_number {date next : Date} (h : Next date next) :
    next.dayNumber = date.dayNumber + 1 := by
  cases h with
  | sameMonth year month day days hmonth hlow hhigh =>
      simp only [dayNumber]
      omega
  | nextMonth year month days hmonth hlast =>
      obtain ⟨hfirst, _, rfl⟩ := month_has_iff.1 hmonth
      have hmonths := days_before_month_succ (isLeapYear year) hfirst
      simp only [dayNumber]
      omega
  | nextYear year =>
      have hyears := days_before_year_succ year
      have hmonths : daysBeforeMonth (isLeapYear year) 13 =
          daysBeforeMonth (isLeapYear year) 12 + 31 := rfl
      have hfirst : daysBeforeMonth (isLeapYear (year + 1)) 1 = 0 := rfl
      simp only [dayNumber]
      omega

/-- Each day has a day after it. -/
theorem IsDay.exists_next {date : Date} (h : date.IsDay) : ∃ next, Next date next := by
  cases h with
  | intro year month day days hmonth hlow hhigh =>
      by_cases hday : day < days
      · exact ⟨_, .sameMonth year month day days hmonth hlow hday⟩
      · obtain rfl : day = days := by omega
        obtain ⟨_, hlast, hlength⟩ := month_has_iff.1 hmonth
        by_cases hyear : month < 12
        · exact ⟨_, .nextMonth year month day hmonth hyear⟩
        · obtain rfl : month = 12 := by omega
          obtain rfl : day = 31 := hlength
          exact ⟨_, .nextYear year⟩

/-- Each day has a day before it. -/
theorem IsDay.exists_previous {date : Date} (h : date.IsDay) : ∃ previous, Next previous date := by
  cases h with
  | intro year month day days hmonth hlow hhigh =>
      obtain ⟨hfirst, hlast, _⟩ := month_has_iff.1 hmonth
      by_cases hday : 1 < day
      · obtain ⟨before, rfl⟩ : ∃ before, day = before + 1 := ⟨day - 1, by omega⟩
        exact ⟨_, .sameMonth year month before days hmonth (by omega) hhigh⟩
      · obtain rfl : day = 1 := by omega
        by_cases hyear : 1 < month
        · obtain ⟨before, rfl⟩ : ∃ before, month = before + 1 := ⟨month - 1, by omega⟩
          exact ⟨_, .nextMonth year before _ (month_has_iff.2 ⟨by omega, by omega, rfl⟩) hlast⟩
        · obtain rfl : month = 1 := by omega
          have hstep := Next.nextYear (year - 1)
          rw [Int.sub_add_cancel] at hstep
          exact ⟨_, hstep⟩

/-- A walk adds up its steps. -/
theorem Distance.day_number {origin date : Date} {days : Int} (h : Distance origin date days) :
    date.dayNumber = origin.dayNumber + days := by
  induction h with
  | here => simp
  | forward date next days _ hstep ih =>
      rw [hstep.day_number, ih]
      omega
  | back date previous days _ hstep ih =>
      have hnumber := hstep.day_number
      omega

theorem Distance.is_day {origin date : Date} {days : Int} (h : Distance origin date days)
    (horigin : origin.IsDay) : date.IsDay := by
  cases h with
  | here => exact horigin
  | forward _ _ _ _ hstep => exact hstep.right
  | back _ _ _ _ hstep => exact hstep.left

/-- A walk can be of any length, in both directions. -/
theorem exists_distance {origin : Date} (horigin : origin.IsDay) (days : Int) :
    ∃ date, Distance origin date days := by
  induction days using Int.induction_on with
  | zero => exact ⟨origin, .here⟩
  | succ days ih =>
      obtain ⟨date, hwalk⟩ := ih
      obtain ⟨next, hstep⟩ := (hwalk.is_day horigin).exists_next
      exact ⟨next, .forward date next days hwalk hstep⟩
  | pred days ih =>
      obtain ⟨date, hwalk⟩ := ih
      obtain ⟨previous, hstep⟩ := (hwalk.is_day horigin).exists_previous
      exact ⟨previous, .back date previous (-days) hwalk hstep⟩

/-! ## The order of days -/

/-- A day of a year is before the next year begins. -/
theorem IsDay.day_of_year_le {date : Date} (h : date.IsDay) :
    daysBeforeMonth (isLeapYear date.year) date.month + date.day ≤
      daysBeforeMonth (isLeapYear date.year) (date.month + 1) := by
  obtain ⟨hfirst, _, _, hday⟩ := is_day_iff.1 h
  rw [days_before_month_succ _ hfirst]
  omega

/-- Earlier days have lower numbers. -/
theorem Earlier.day_number_lt {left right : Date} (hleft : left.IsDay) (hright : right.IsDay)
    (h : left.Earlier right) : left.dayNumber < right.dayNumber := by
  obtain ⟨hfirst, hlast, _, _⟩ := is_day_iff.1 hleft
  obtain ⟨hfirst', _, hpos', _⟩ := is_day_iff.1 hright
  have hend := hleft.day_of_year_le
  rcases h with hyear | ⟨hyear, hmonth | ⟨hmonth, hday⟩⟩
  · have hyears := days_before_year_mono (show left.year + 1 ≤ right.year from hyear)
    have hyearend := days_before_year_succ left.year
    have hmonths := days_before_month_mono (isLeapYear left.year) (by omega)
      (show left.month + 1 ≤ 13 by omega)
    simp only [dayNumber]
    omega
  · have hmonths := days_before_month_mono (isLeapYear left.year) (by omega)
      (show left.month + 1 ≤ right.month from hmonth)
    simp only [dayNumber, ← hyear]
    omega
  · simp only [dayNumber, ← hyear, ← hmonth]
    omega

theorem earlier_trichotomy (left right : Date) :
    left.Earlier right ∨ left = right ∨ right.Earlier left := by
  obtain ⟨year, month, day⟩ := left
  obtain ⟨year', month', day'⟩ := right
  simp only [Earlier, Date.mk.injEq]
  omega

/-- The numbers of days are in the order of the days. -/
theorem day_number_lt_iff {left right : Date} (hleft : left.IsDay) (hright : right.IsDay) :
    left.dayNumber < right.dayNumber ↔ left.Earlier right := by
  refine ⟨fun h => ?_, Earlier.day_number_lt hleft hright⟩
  rcases earlier_trichotomy left right with hearlier | rfl | hlater
  · exact hearlier
  · exact absurd h (Int.lt_irrefl _)
  · have hnumber := hlater.day_number_lt hright hleft
    omega

/-- No two days have the same number. -/
theorem day_number_inj {left right : Date} (hleft : left.IsDay) (hright : right.IsDay) :
    left.dayNumber = right.dayNumber ↔ left = right := by
  refine ⟨fun h => ?_, fun h => h ▸ rfl⟩
  rcases earlier_trichotomy left right with hearlier | heq | hlater
  · have hnumber := hearlier.day_number_lt hleft hright
    omega
  · exact heq
  · have hnumber := hlater.day_number_lt hright hleft
    omega

/-- The distance between two days is the difference of their numbers. -/
theorem distance_iff {origin date : Date} (horigin : origin.IsDay) (hdate : date.IsDay)
    {days : Int} :
    Distance origin date days ↔ days = date.dayNumber - origin.dayNumber := by
  constructor
  · intro h
    rw [h.day_number]
    omega
  · rintro rfl
    -- A walk of that length ends at some day, and only one day has that number.
    obtain ⟨other, hwalk⟩ := exists_distance horigin (date.dayNumber - origin.dayNumber)
    have hnumber : other.dayNumber = date.dayNumber := by
      rw [hwalk.day_number]
      omega
    rwa [(day_number_inj (hwalk.is_day horigin) hdate).1 hnumber] at hwalk

end ForumQuery.Date
