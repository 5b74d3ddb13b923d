import ForumQuery.DateRange

/-!
# The two sides of a range

A side of a range is what its date resolves to, or a fallback. `BoundedBy` says so as a relation,
and `bound_iff` that it is what the sides of a range are made by.
-/

namespace ForumQuery.DateRange

/-- `BoundedBy resolve fallback date instant` says that the instant is what the date resolves to, or
the fallback if there is no date or it does not resolve. -/
inductive BoundedBy (resolve : Text → Except DateError Int) (fallback : Int) :
    Option Text → Int → Prop where
  | resolved (text instant) :
      resolve text = .ok instant → BoundedBy resolve fallback (some text) instant
  | unusable (text error) :
      resolve text = .error error → BoundedBy resolve fallback (some text) fallback
  | missing : BoundedBy resolve fallback none fallback

theorem bound_iff {resolve : Text → Except DateError Int} {fallback instant : Int}
    {date : Option Text} :
    BoundedBy resolve fallback date instant ↔ bound resolve date fallback = instant := by
  constructor
  · intro h
    cases h with
    | resolved text instant h => simp [bound, h, Except.toOption]
    | unusable text error h => simp [bound, h, Except.toOption]
    | missing => rfl
  · rintro rfl
    cases date with
    | none => exact .missing
    | some text =>
        cases h : resolve text with
        | ok instant => simpa [bound, h, Except.toOption] using BoundedBy.resolved text instant h
        | error error => simpa [bound, h, Except.toOption] using BoundedBy.unusable text error h

/-- A date that does not resolve leaves its side at the fallback. -/
theorem BoundedBy.of_error {resolve : Text → Except DateError Int} {fallback instant : Int}
    {text : Text} (h : BoundedBy resolve fallback (some text) instant) {error : DateError}
    (herror : resolve text = .error error) : instant = fallback := by
  cases h with
  | resolved _ _ hok =>
      rw [herror] at hok
      cases hok
  | unusable => rfl

variable {filters : Filters} {text : Text} {instant : Int}

/-- The start of a range whose first date resolves. -/
theorem start_of_filters (hdate : filters.fromDate = some text)
    (hresolve : Day.start text filters.timeZoneOffset = .ok instant) (now : Int) :
    (ofFilters filters now).start = instant :=
  bound_iff.1 (hdate ▸ .resolved text instant hresolve)

/-- The end of a range whose last date resolves. -/
theorem stop_of_filters (hdate : filters.toDate = some text)
    (hresolve : Day.stop text filters.timeZoneOffset = .ok instant) (now : Int) :
    (ofFilters filters now).stop = instant :=
  bound_iff.1 (hdate ▸ .resolved text instant hresolve)

end ForumQuery.DateRange
