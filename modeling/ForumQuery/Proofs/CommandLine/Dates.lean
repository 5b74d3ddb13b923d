import ForumQuery.Proofs.Calendar.Bounds
import ForumQuery.Proofs.Calendar.Ranges
import ForumQuery.Proofs.CommandLine.Outcome

/-!
# Warnings about dates

A date that gives no bound leaves its side of the range at a fallback, and the command warns of it.
`warned_of_dates` says that it does so whenever a side falls back, but for two days at the ends of
the calendar in use: they can be read, yet clocks on one side of UTC do not see them begin or end,
and then the side falls back without a warning, as `dates_unwarned` shows.
-/

namespace ForumQuery

/-- The event warns of a date on the given side. -/
def Log.Event.warnsOf (side : Log.Side) : Log.Event → Bool
  | .unusableDate other _ _ => decide (other = side)
  | _ => false

namespace CommandLine

/-- `Warned side resolve unseen date events` says that among the events there is one warning about
the side if its date is given and does not resolve, and none otherwise. The warning names the date
and the reason. Of a date that is unseen there is no warning. -/
structure Warned (side : Log.Side) (resolve : Text → Except DateError Int) (unseen : Text → Prop)
    (date : Option Text) (events : List Log.Event) : Prop where
  once : ∀ text error,
    events.filter (Log.Event.warnsOf side) = [.unusableDate side text error] ↔
      date = some text ∧ resolve text = .error error ∧ ¬ unseen text
  never : events.filter (Log.Event.warnsOf side) = [] ↔
    ∀ text error, date = some text → resolve text = .error error → unseen text

/-- `OnlyUnseen resolve unseen` says that of the texts that do not resolve exactly those are unseen
that can be read. -/
structure OnlyUnseen (resolve : Text → Except DateError Int) (unseen : Text → Prop) : Prop where
  unread : ∀ text error, Date.read text = .error error →
    resolve text = .error error ∧ ¬ unseen text
  read : ∀ text day, Date.read text = .ok day →
    (unseen text ↔ ∃ error, resolve text = .error error)

/-- Before the calendar in use clocks ahead of UTC do not see its first day begin. -/
theorem only_unseen_start {offset : Int} (hlow : -86399 ≤ offset) (hhigh : offset ≤ 86399) :
    OnlyUnseen (Day.start · offset)
      (fun text => Date.read text = .ok ⟨-262143, 1, 1⟩ ∧ 0 < offset) where
  unread text error hread := by
    refine ⟨Day.start_of_unread hread offset, ?_⟩
    rintro ⟨hfirst, _⟩
    rw [hread] at hfirst
    cases hfirst
  read text day hread := by
    have heffective : Offset.effective offset = offset := by
      rw [Offset.effective_eq, if_pos ⟨hlow, hhigh⟩]
    rw [Day.start_of_read hread, heffective, hread, Except.ok.injEq]
    show day = Date.firstDay ∧ 0 < offset ↔ _
    split
    · next hunseen => exact ⟨fun _ => ⟨_, rfl⟩, fun _ => hunseen⟩
    · next hseen => exact ⟨fun h => absurd h hseen, fun ⟨_, h⟩ => nomatch h⟩

/-- After the calendar in use clocks behind UTC do not see its last day end. -/
theorem only_unseen_stop {offset : Int} (hlow : -86399 ≤ offset) (hhigh : offset ≤ 86399) :
    OnlyUnseen (Day.stop · offset)
      (fun text => Date.read text = .ok ⟨262142, 12, 31⟩ ∧ offset < 0) where
  unread text error hread := by
    refine ⟨Day.stop_of_unread hread offset, ?_⟩
    rintro ⟨hlast, _⟩
    rw [hread] at hlast
    cases hlast
  read text day hread := by
    have heffective : Offset.effective offset = offset := by
      rw [Offset.effective_eq, if_pos ⟨hlow, hhigh⟩]
    rw [Day.stop_of_read hread, heffective, hread, Except.ok.injEq]
    show day = Date.lastDay ∧ offset < 0 ↔ _
    split
    · next hunseen => exact ⟨fun _ => ⟨_, rfl⟩, fun _ => hunseen⟩
    · next hseen => exact ⟨fun h => absurd h hseen, fun ⟨_, h⟩ => nomatch h⟩

/-- The warnings about one side are those about its date. -/
theorem filter_date_events (side other : Log.Side) (date : Option Text) :
    (dateEvents side date).filter (Log.Event.warnsOf other) =
      if side = other then dateEvents side date else [] := by
  unfold dateEvents
  split
  · simp
  · split
    · simp
    · simp [Log.Event.warnsOf, List.filter_cons]

/-- A date that cannot be read is the only one that is warned of. -/
theorem warned_date {side : Log.Side} {resolve : Text → Except DateError Int}
    {unseen : Text → Prop} (h : OnlyUnseen resolve unseen) {date : Option Text}
    {events : List Log.Event}
    (hevents : events.filter (Log.Event.warnsOf side) = dateEvents side date) :
    Warned side resolve unseen date events := by
  cases date with
  | none => constructor <;> simp [hevents, dateEvents]
  | some text =>
      cases hread : Date.read text with
      | error error =>
          have hwarning : events.filter (Log.Event.warnsOf side) =
              [.unusableDate side text error] := by
            rw [hevents, dateEvents, hread]
          obtain ⟨hresolve, hseen⟩ := h.unread text error hread
          constructor
          · intro other reason
            simp only [hwarning, List.cons.injEq, Log.Event.unusableDate.injEq, Option.some.injEq]
            constructor
            · rintro ⟨⟨_, rfl, rfl⟩, _⟩
              exact ⟨rfl, hresolve, hseen⟩
            · rintro ⟨rfl, hreason, _⟩
              exact ⟨⟨trivial, rfl, Except.error.inj (hresolve.symm.trans hreason)⟩, trivial⟩
          · simp only [hwarning, reduceCtorEq, false_iff]
            exact fun hunseen => hseen (hunseen text error rfl hresolve)
      | ok day =>
          have hsilent : events.filter (Log.Event.warnsOf side) = [] := by
            rw [hevents, dateEvents, hread]
          have hunseen : ∀ other error, some text = some other → resolve other = .error error →
              unseen other := by
            rintro _ error ⟨⟩ herror
            exact (h.read text day hread).2 ⟨error, herror⟩
          constructor
          · intro other error
            simp only [hsilent, reduceCtorEq, false_iff]
            exact fun ⟨hdate, herror, hseen⟩ => hseen (hunseen other error hdate herror)
          · exact iff_of_true hsilent hunseen

/-- A side of the range starts or ends where its date resolves to, and falls back if the date is
missing or does not resolve. Of each date that does not resolve there is one warning, and there are
no others; but a date that can be read and falls back all the same is not warned of. These are the
first day of the calendar in use, if clocks are ahead of UTC, and its last day, if they are
behind. -/
theorem warned_of_dates {settings : Settings} {given : Option Int} {offset : Int}
    (hoffset : settledOffset given settings = .ok offset) (json : Bool) (now : Int)
    (first last : Option Text) :
    let done := dates settings json now first last given
    let range := DateRange.ofFilters
      { fromDate := first, toDate := last, timeZoneOffset := offset } now
    let startsUnseen := fun text => Date.read text = .ok ⟨-262143, 1, 1⟩ ∧ 0 < offset
    let endsUnseen := fun text => Date.read text = .ok ⟨262142, 12, 31⟩ ∧ offset < 0
    done.result = .ok (if json then document range.toJson else range.listing) ∧
      DateRange.BoundedBy (Day.start · offset) 0 first range.start ∧
      DateRange.BoundedBy (Day.stop · offset) now last range.stop ∧
      Warned .fromDate (Day.start · offset) startsUnseen first done.events ∧
      Warned .toDate (Day.stop · offset) endsUnseen last done.events ∧
      (∀ text, startsUnseen text → ∃ error, Day.start text offset = .error error) ∧
      ∀ text, endsUnseen text → ∃ error, Day.stop text offset = .error error := by
  intro done range startsUnseen endsUnseen
  obtain ⟨_, hlow, hhigh⟩ := settled_offset_iff.1 hoffset
  have hrequired : requiredOffset given settings = .ok offset := by
    rw [requiredOffset, hoffset]
    rfl
  have hdone : done = ⟨dateEvents .fromDate first ++ dateEvents .toDate last,
      .ok (if json then document range.toJson else range.listing)⟩ := by
    show dates settings json now first last given = _
    rw [dates, hrequired]
  have hstart := only_unseen_start hlow hhigh
  have hstop := only_unseen_stop hlow hhigh
  refine ⟨?_, DateRange.bound_iff.2 rfl, DateRange.bound_iff.2 rfl, warned_date hstart ?_,
    warned_date hstop ?_, ?_, ?_⟩
  · rw [hdone]
  · simp [hdone, List.filter_append, filter_date_events]
  · simp [hdone, List.filter_append, filter_date_events]
  · exact fun text hunseen => (hstart.read text _ hunseen.1).1 hunseen
  · exact fun text hunseen => (hstop.read text _ hunseen.1).1 hunseen

/-- A 29 February of a common year is warned of, and a last day that clocks ahead of UTC see end is
not. -/
theorem warned_of_dates_leap_day :
    let unread := "1900-2-29".toList
    let last := "+262142-12-31".toList
    let done := dates {} true 5 (some unread) (some last) (some 1)
    let range := DateRange.ofFilters
      { fromDate := some unread, toDate := some last, timeZoneOffset := 1 } 5
    settledOffset (some 1) {} = .ok 1 ∧ Day.start unread 1 = .error .invalidDate ∧
      Day.stop last 1 = .ok 8210266876798999 ∧ done.result = .ok (document range.toJson) ∧
      DateRange.BoundedBy (Day.start · 1) 0 (some unread) range.start ∧
      done.events.filter (Log.Event.warnsOf .fromDate) =
        [.unusableDate .fromDate unread .invalidDate] ∧
      done.events.filter (Log.Event.warnsOf .toDate) = [] := by
  intro unread last done range
  have hoffset : settledOffset (some 1) {} = .ok 1 := rfl
  have hunread : Date.read unread = .error .invalidDate := rfl
  have hlast : Date.read last = .ok ⟨262142, 12, 31⟩ := rfl
  have hstart : Day.start unread 1 = .error .invalidDate := Day.start_of_unread hunread 1
  have hstop : Day.stop last 1 = .ok 8210266876798999 :=
    (Day.stop_of_read hlast 1).trans (if_neg (by decide))
  obtain ⟨hresult, hbounded, _, hfirst, hsecond, _⟩ :=
    warned_of_dates hoffset true 5 (some unread) (some last)
  refine ⟨hoffset, hstart, hstop, hresult, hbounded,
    (hfirst.once unread .invalidDate).2 ⟨rfl, hstart, ?_⟩, hsecond.never.2 ?_⟩
  · rintro ⟨hread, _⟩
    rw [hunread] at hread
    cases hread
  · rintro _ error ⟨⟩ herror
    rw [hstop] at herror
    cases herror

/-- Clocks a second ahead of UTC do not see the first day of the calendar in use begin. The start
falls back to the beginning of 1970, and nothing is said of it: it is not so that every date that
does not resolve is warned of. -/
theorem dates_unwarned :
    let first := "-262143-1-1".toList
    let last := "2024-1-1".toList
    let done := dates {} false 0 (some first) (some last) (some 1)
    settledOffset (some 1) {} = .ok 1 ∧ Day.start first 1 = .error .invalidDate ∧
      (DateRange.ofFilters
        { fromDate := some first, toDate := some last, timeZoneOffset := 1 } 0).start = 0 ∧
      done.events = [] ∧
      ¬ Warned .fromDate (Day.start · 1) (fun _ => False) (some first) done.events ∧
      run {} ["dates".toList, "--from=-262143-1-1".toList, "--to=2024-1-1".toList,
          "--tz-offset".toList, "1".toList] =
        some ⟨0, Text.unlines ["start: 0 (1970-01-01T00:00:00.000Z)".toList,
          "end: 1704153598999 (2024-01-01T23:59:58.999Z)".toList], []⟩ := by
  intro first last done
  have hstart : Day.start first 1 = .error .invalidDate := rfl
  have hevents : done.events = [] := rfl
  refine ⟨rfl, hstart, rfl, hevents, ?_, by decide +kernel⟩
  intro h
  have hwarning := (h.once first .invalidDate).2 ⟨rfl, hstart, id⟩
  rw [hevents] at hwarning
  cases hwarning

end CommandLine

end ForumQuery
