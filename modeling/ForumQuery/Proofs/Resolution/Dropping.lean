import ForumQuery.Log
import ForumQuery.Proofs.Interleaving
import ForumQuery.Proofs.Resolution.LastFlag

/-!
# Dropped flags

A flag for a filter is dropped if it is excluded, or if its value does not denote what its name
asks for. `Flag.DroppedFor` says which flags these are and which reason is given, and
`Log.Reported` which events tell of the flags of a list. The main statement, `dropped_flags_inert`,
says that a search tells of exactly the dropped flags, and that leaving out any of them takes away
the events that tell of them and changes no record.
-/

namespace ForumQuery

/-- `flag.DroppedFor reason` says that the flag sets nothing and which reason is given for it. -/
inductive Flag.DroppedFor : Flag → Text → Prop where
  | excluded (name value) : name ≠ .title → name ≠ .body →
      DroppedFor ⟨name, value, true⟩ "filter flags cannot be excluded".toList
  | postType (value) : (∀ type, ¬ DenotesPostType value type) →
      DroppedFor ⟨.is, value, false⟩ "expected question or answer".toList
  | id (name value) : name = .user ∨ name = .inQuestion →
      ¬ (value.length = 26 ∧ ∀ c ∈ value, c.isAlphanum = true) →
      DroppedFor ⟨name, value, false⟩ "not an id".toList
  | count (name value) : name ∈ [.minVotes, .maxVotes, .minAnswers, .maxAnswers] →
      (∀ count, ¬ DenotesCount value count) →
      DroppedFor ⟨name, value, false⟩ "not an integer".toList

/-- `Reported flags events` says that the events tell of the dropped flags among the flags, in
their order and with the reason for each, and of nothing else. -/
inductive Log.Reported : List Flag → List Log.Event → Prop where
  | nil : Reported [] []
  | dropped (drop : DroppedFlag) (flags events) :
      drop.flag.DroppedFor drop.rejection.reason → Reported flags events →
      Reported (drop.flag :: flags) (.flagDropped drop :: events)
  | heeded (flag flags events) :
      (∀ reason, ¬ flag.DroppedFor reason) → Reported flags events → Reported (flag :: flags) events

/-! ## Why a flag is dropped -/

/-- The wording tells the reasons apart. -/
theorem Rejection.reason_injective {left right : Rejection} (h : left.reason = right.reason) :
    left = right := by
  cases left <;> cases right <;> first | rfl | exact absurd h (by decide)

namespace FlagName

/-- What is wrong with a value that does not read in a flag of the name. All values read in flags
for dates and fields. -/
def misfit : FlagName → Rejection
  | .is => .notPostType
  | .user | .inQuestion => .notId
  | _ => .notInteger

variable {name : FlagName} {value : Text}

/-- Nothing is read exactly if the text denotes nothing. -/
theorem value_eq_none_iff : name.value? value = none ↔ ∀ denoted, ¬ name.Denotes value denoted := by
  simp only [Option.eq_none_iff_forall_ne_some, ne_eq, value_iff]

end FlagName

/-- A text denotes some identifier exactly if it has the form of one. -/
theorem exists_denotes_id_iff {kind : IdKind} {value : Text} :
    (∃ id : Id kind, DenotesId value id) ↔
      value.length = 26 ∧ ∀ c ∈ value, c.isAlphanum = true := by
  constructor
  · rintro ⟨_, hlength, hall, _⟩
    exact ⟨hlength, hall⟩
  · rintro ⟨hlength, hall⟩
    exact ⟨⟨value, by simpa [isId, hlength] using hall⟩, hlength, hall, rfl⟩

/-- An included flag sets no filter exactly if its value does not read. -/
theorem Filters.set_error_iff {filters : Filters} {name : FlagName} {value : Text}
    {rejection : Rejection} :
    filters.set name value = .error rejection ↔
      name.value? value = none ∧ name.misfit = rejection := by
  cases name with
  | is =>
      cases h : PostType.read? value <;>
        simp [set, readPostType, Except.map, FlagName.value?, FlagName.misfit, h]
  | user =>
      cases h : Id.read .user value <;>
        simp [set, readId, Except.map, Except.mapError, Except.toOption, FlagName.value?,
          FlagName.misfit, h]
  | inQuestion =>
      cases h : Id.read .post value <;>
        simp [set, readId, Except.map, Except.mapError, Except.toOption, FlagName.value?,
          FlagName.misfit, h]
  | minVotes | maxVotes | minAnswers | maxAnswers =>
      cases h : Text.Interval.signed64.read? value <;>
        simp [set, readCount, Except.map, FlagName.value?, FlagName.misfit, h]
  | fromDate | toDate | title | body => simp [set, FlagName.value?]

namespace Flag

variable {flag : Flag} {reason : Text}

/-- Why the flag is dropped, if it is. -/
def rejection? (flag : Flag) : Option Rejection :=
  if flag.name = .title ∨ flag.name = .body then none
  else if flag.excluded then some .excludedFilter
  else if flag.name.value? flag.value = none then some flag.name.misfit
  else none

/-- The flag with the reason, if it is dropped. -/
def drop? (flag : Flag) : Option DroppedFlag :=
  flag.rejection?.map fun rejection => ⟨flag, rejection⟩

/-- The flags with a rejection are those for a filter that are excluded or whose value does not
read. -/
theorem rejection_iff {rejection : Rejection} :
    flag.rejection? = some rejection ↔ (flag.name ≠ .title ∧ flag.name ≠ .body) ∧
      (flag.excluded = true ∧ .excludedFilter = rejection ∨
        flag.excluded = false ∧ flag.name.value? flag.value = none ∧
          flag.name.misfit = rejection) := by
  unfold rejection?
  split
  · next hfield => simp [← not_or, hfield]
  · next hfield =>
      split
      · next hexcluded => simp [← not_or, hfield, hexcluded]
      · next hincluded => simp [← not_or, hfield, hincluded]

/-- A value that denotes nothing is rejected in an included flag. -/
theorem rejection_of_misfit {name : FlagName} {value : Text}
    (hnone : ∀ denoted, ¬ name.Denotes value denoted) :
    rejection? ⟨name, value, false⟩ = some name.misfit := by
  have hread := FlagName.value_eq_none_iff.2 hnone
  have hfield : name ≠ .title ∧ name ≠ .body := by
    constructor <;> (rintro rfl; cases hread)
  exact rejection_iff.2 ⟨hfield, Or.inr ⟨rfl, hread, rfl⟩⟩

/-- A dropped flag has a rejection with the wording of the reason. -/
theorem DroppedFor.rejection (h : flag.DroppedFor reason) :
    ∃ rejection, flag.rejection? = some rejection ∧ rejection.reason = reason := by
  cases h with
  | excluded name value htitle hbody =>
      exact ⟨_, rejection_iff.2 ⟨⟨htitle, hbody⟩, Or.inl ⟨rfl, rfl⟩⟩, rfl⟩
  | postType value hnone => exact ⟨_, rejection_of_misfit hnone, rfl⟩
  | id name value hname hform =>
      have hnone : ∀ kind, ∀ id : Id kind, ¬ DenotesId value id :=
        fun kind id hid => hform (exists_denotes_id_iff.1 ⟨id, hid⟩)
      rcases hname with rfl | rfl <;> exact ⟨_, rejection_of_misfit (hnone _), rfl⟩
  | count name value hname hnone =>
      simp only [List.mem_cons, List.not_mem_nil, or_false] at hname
      rcases hname with rfl | rfl | rfl | rfl <;> exact ⟨_, rejection_of_misfit hnone, rfl⟩

/-- A flag with a rejection is dropped, in the wording of it. -/
theorem dropped_for_of_rejection {rejection : Rejection} (h : flag.rejection? = some rejection) :
    flag.DroppedFor rejection.reason := by
  obtain ⟨name, value, excluded⟩ := flag
  obtain ⟨⟨htitle, hbody⟩, ⟨rfl, rfl⟩ | ⟨rfl, hread, rfl⟩⟩ := rejection_iff.1 h
  · exact .excluded name value htitle hbody
  · have hnone := FlagName.value_eq_none_iff.1 hread
    cases name with
    | is => exact .postType value hnone
    | user | inQuestion =>
        refine .id _ value (by simp) fun hform => ?_
        obtain ⟨id, hid⟩ := exists_denotes_id_iff.2 hform
        exact hnone id hid
    | minVotes | maxVotes | minAnswers | maxAnswers => exact .count _ value (by simp) hnone
    | fromDate | toDate | title | body => cases hread

/-- A flag is found together with the reason for which it is dropped. -/
theorem drop_some_iff {drop : DroppedFlag} :
    flag.drop? = some drop ↔ drop.flag = flag ∧ flag.DroppedFor drop.rejection.reason := by
  rw [drop?, Option.map_eq_some_iff]
  constructor
  · rintro ⟨rejection, hrejection, rfl⟩
    exact ⟨rfl, dropped_for_of_rejection hrejection⟩
  · rintro ⟨rfl, hdropped⟩
    obtain ⟨rejection, hrejection, hreason⟩ := hdropped.rejection
    exact ⟨rejection, hrejection, by rw [Rejection.reason_injective hreason]⟩

/-- Nothing is found for a flag exactly if it is not dropped. -/
theorem drop_none_iff : flag.drop? = none ↔ ∀ reason, ¬ flag.DroppedFor reason := by
  constructor
  · intro hnone reason hdropped
    obtain ⟨rejection, hrejection, _⟩ := hdropped.rejection
    rw [drop?, hrejection] at hnone
    cases hnone
  · intro hheeded
    refine Option.eq_none_iff_forall_ne_some.2 fun drop hdrop => ?_
    exact hheeded _ (drop_some_iff.1 hdrop).2

/-- A dropped flag is idle and for no field. -/
theorem DroppedFor.is_idle (h : flag.DroppedFor reason) :
    flag.IsIdle ∧ flag.name ≠ .title ∧ flag.name ≠ .body := by
  obtain ⟨_, hrejection, _⟩ := h.rejection
  obtain ⟨hfield, ⟨hexcluded, _⟩ | ⟨_, hread, _⟩⟩ := rejection_iff.1 hrejection
  · exact ⟨Or.inl hexcluded, hfield⟩
  · exact ⟨Or.inr (FlagName.value_eq_none_iff.1 hread), hfield⟩

/-! ## Flags that are left out -/

variable {kept removed flags : List Flag}

/-- Idle flags may be left out wherever they stand. -/
theorem last_read_of_interleaved (h : Interleaved kept removed flags)
    (hidle : ∀ flag ∈ removed, flag.IsIdle) (name : FlagName) :
    lastRead name flags = lastRead name kept := by
  induction h with
  | nil => rfl
  | left flag kept removed flags _ ih =>
      -- A kept flag is heard in both lists, if none behind it is.
      have hrest := ih hidle
      rw [← List.singleton_append, last_read_append, hrest, ← last_read_append,
        List.singleton_append]
  | right flag kept removed flags _ ih =>
      obtain ⟨hflag, hrest⟩ := List.forall_mem_cons.1 hidle
      exact (hflag.last_read [] flags).trans (ih hrest)

/-- Flags of other names may be left out. -/
theorem named_of_interleaved (h : Interleaved kept removed flags) {name : FlagName}
    (hname : ∀ flag ∈ removed, flag.name ≠ name) (excluded : Bool) :
    named name excluded flags = named name excluded kept := by
  unfold named
  rw [← List.filterMap_eq_filter]
  exact h.filter_map_left fun flag hflag => by simp [hname flag hflag]

end Flag

/-! ## Flags that are told of -/

/-- The filters reject exactly the flags that are dropped, whatever is set already. -/
theorem Filters.apply_error_iff (filters : Filters) {flag : Flag} {rejection : Rejection}
    (hfield : flag.name ≠ .title ∧ flag.name ≠ .body) :
    filters.apply flag = .error rejection ↔ flag.rejection? = some rejection := by
  rw [Flag.rejection_iff, and_iff_right hfield, apply]
  cases flag.excluded <;> simp [set_error_iff]

namespace Resolution

/-- One more flag is put behind those that are dropped already, if it is dropped itself. -/
theorem add_dropped (resolution : Resolution) (flag : Flag) :
    (resolution.add flag).dropped = resolution.dropped ++ flag.drop?.toList := by
  unfold add
  split
  · next hname => simp [Flag.drop?, Flag.rejection?, hname]
  · next hname => simp [Flag.drop?, Flag.rejection?, hname]
  · next htitle hbody =>
      have herror : ∀ rejection, resolution.filters.apply flag = .error rejection ↔
          flag.rejection? = some rejection :=
        fun _ => Filters.apply_error_iff _ ⟨htitle, hbody⟩
      cases happly : resolution.filters.apply flag with
      | ok filters =>
          have hnone : flag.rejection? = none := by
            refine Option.eq_none_iff_forall_ne_some.2 fun rejection hsome => ?_
            rw [(herror rejection).2 hsome] at happly
            cases happly
          simp [Flag.drop?, hnone]
      | error rejection => simp [Flag.drop?, (herror rejection).1 happly]

/-- The dropped flags of a list, each with its rejection. -/
theorem of_flags_dropped (flags : List Flag) (offset : Int) :
    (ofFlags flags offset).dropped = flags.filterMap Flag.drop? := by
  induction flags using List.reverseRecOn with
  | nil => rfl
  | append_singleton flags flag ih =>
      rw [of_flags_concat, add_dropped, ih, List.filterMap_append]
      cases h : flag.drop? <;> simp [h]

end Resolution

/-- The events that tell of the flags of a list are those for its dropped flags. -/
theorem Log.reported_iff {flags : List Flag} {events : List Log.Event} :
    Reported flags events ↔ (flags.filterMap Flag.drop?).map Event.flagDropped = events := by
  constructor
  · intro h
    induction h with
    | nil => rfl
    | dropped drop flags events hdropped _ ih =>
        rw [List.filterMap_cons_some (Flag.drop_some_iff.2 ⟨rfl, hdropped⟩), List.map_cons, ih]
    | heeded flag flags events hheeded _ ih =>
        rw [List.filterMap_cons_none (Flag.drop_none_iff.2 hheeded), ih]
  · rintro rfl
    induction flags with
    | nil => exact .nil
    | cons flag flags ih =>
        cases hdrop : flag.drop? with
        | none =>
            rw [List.filterMap_cons_none hdrop]
            exact .heeded _ _ _ (Flag.drop_none_iff.1 hdrop) ih
        | some drop =>
            obtain ⟨rfl, hdropped⟩ := Flag.drop_some_iff.1 hdrop
            rw [List.filterMap_cons_some hdrop]
            exact .dropped drop _ _ hdropped ih

/-- A search tells of the dropped flags and of no others, in their order and each with the reason.
Any of them may be left out: the records stay the same, and just the events that tell of these
flags, one for each, are left out as well. -/
theorem dropped_flags_inert (flags : List Flag) (buckets : Buckets) (offset : Int) :
    let told : List Flag → List Log.Event := fun flags =>
      (Resolution.ofFlags flags offset).dropped.map Log.Event.flagDropped
    (∀ events, Log.Reported flags events ↔ told flags = events) ∧
    (∀ event ∈ told flags, event.level = .debug) ∧
    ∀ kept removed, Interleaved kept removed flags →
      (∀ flag ∈ removed, ∃ reason, flag.DroppedFor reason) →
      SearchRecord.build kept buckets offset = SearchRecord.build flags buckets offset ∧
      (told removed).length = removed.length ∧
      Interleaved (told kept) (told removed) (told flags) := by
  intro told
  have htold : ∀ flags, told flags = (flags.filterMap Flag.drop?).map Log.Event.flagDropped :=
    fun flags => by rw [← Resolution.of_flags_dropped flags offset]
  refine ⟨fun events => by rw [htold, Log.reported_iff], fun event hevent => ?_, ?_⟩
  · obtain ⟨_, _, rfl⟩ := List.mem_map.1 hevent
    rfl
  · intro kept removed h hdropped
    have hidle : ∀ flag ∈ removed, flag.IsIdle ∧ flag.name ≠ .title ∧ flag.name ≠ .body :=
      fun flag hflag => (hdropped flag hflag).elim fun _ hreason => hreason.is_idle
    have hterms : ∀ name, (∀ flag ∈ removed, flag.name ≠ name) →
        Terms.ofFlags name kept = Terms.ofFlags name flags := by
      intro name hname
      simp only [Terms.ofFlags, Flag.named_of_interleaved h hname]
    refine ⟨?_, ?_, ?_⟩
    · have hread := Flag.last_read_of_interleaved h fun flag hflag => (hidle flag hflag).1
      exact SearchRecord.build_congr (fun name => (hread name).symm)
        (hterms _ fun flag hflag => (hidle flag hflag).2.1)
        (hterms _ fun flag hflag => (hidle flag hflag).2.2) ..
    · rw [htold, List.length_map, List.filterMap_length_eq_length]
      intro flag hflag
      obtain ⟨reason, hreason⟩ := hdropped flag hflag
      rw [Option.isSome_iff_ne_none]
      exact fun hnone => Flag.drop_none_iff.1 hnone reason hreason
    · simp only [htold, List.map_filterMap]
      exact h.filter_map _

/-- A kind of post that there is not and an excluded date are left out, a bound that is no number
stays. The search still tells of the bound, and no more of the others. -/
theorem dropped_flags_inert_some :
    let kind : Flag := ⟨.is, "comment".toList, false⟩
    let votes : Flag := ⟨.minVotes, "5".toList, false⟩
    let date : Flag := ⟨.fromDate, "2024-1-5".toList, true⟩
    let bound : Flag := ⟨.maxVotes, "1.5".toList, false⟩
    let title : Flag := ⟨.title, "x".toList, true⟩
    let flags := [kind, votes, date, bound, title]
    let kept := [votes, bound, title]
    let told : List Flag → List Log.Event := fun flags =>
      (Resolution.ofFlags flags 0).dropped.map Log.Event.flagDropped
    Log.Reported flags [.flagDropped ⟨kind, .notPostType⟩, .flagDropped ⟨date, .excludedFilter⟩,
        .flagDropped ⟨bound, .notInteger⟩] ∧
      Interleaved kept [kind, date] flags ∧
      (∀ flag ∈ [kind, date], ∃ reason, flag.DroppedFor reason) ∧
      SearchRecord.build kept {} 0 = SearchRecord.build flags {} 0 ∧
      told kept = [.flagDropped ⟨bound, .notInteger⟩] ∧
      Interleaved (told kept) (told [kind, date]) (told flags) := by
  intro kind votes date bound title flags kept told
  have htold : told flags = [.flagDropped ⟨kind, .notPostType⟩,
      .flagDropped ⟨date, .excludedFilter⟩, .flagDropped ⟨bound, .notInteger⟩] := by
    decide +kernel
  have hkept : told kept = [.flagDropped ⟨bound, .notInteger⟩] := by decide +kernel
  have hmixed : Interleaved kept [kind, date] flags :=
    .right _ _ _ _ (.left _ _ _ _ (.right _ _ _ _ (.left _ _ _ _ (.left _ _ _ _ .nil))))
  have hdropped : ∀ flag ∈ [kind, date], ∃ reason, flag.DroppedFor reason := by
    have hkind : ∀ type, ¬ DenotesPostType kind.value type := by
      unfold DenotesPostType
      intro type
      cases type <;> decide
    intro flag hflag
    simp only [List.mem_cons, List.not_mem_nil, or_false] at hflag
    rcases hflag with rfl | rfl
    · exact ⟨_, .postType _ hkind⟩
    · exact ⟨_, .excluded _ _ (by decide) (by decide)⟩
  obtain ⟨hreported, _, hremove⟩ := dropped_flags_inert flags {} 0
  obtain ⟨hbuild, _, hgone⟩ := hremove kept [kind, date] hmixed hdropped
  exact ⟨(hreported _).2 htold, hmixed, hdropped, hbuild, hkept, hgone⟩

end ForumQuery
