import ForumQuery.Proofs.Resolution.Values
import ForumQuery.Proofs.Terms.Joined
import ForumQuery.Resolution
import Mathlib.Data.List.Induction

/-!
# What flags come to, name by name

Flags are read one after the other, but what they come to can be told for each name apart: a filter
has the last value that reads among the included flags of its name, and a side of a field has the
values of the flags of that name and side, joined. `of_flags_filters`, `of_flags_title` and
`of_flags_body` say so for every list of flags. All of it depends on a list only through
`Flag.named`.
-/

namespace ForumQuery

/-- The flags of one name on one side, in order. -/
def Flag.named (name : FlagName) (excluded : Bool) (flags : List Flag) : List Flag :=
  flags.filter fun flag => flag.name = name ∧ flag.excluded = excluded

/-- The last value that reads among the included flags of a name. -/
def Flag.lastRead (name : FlagName) (flags : List Flag) : Option name.Value :=
  ((Flag.named name false flags).filterMap fun flag => name.value? flag.value).getLast?

/-- The terms that the flags of a name give to their field. -/
def Terms.ofFlags (name : FlagName) (flags : List Flag) : Terms :=
  Terms.ofTexts ((Flag.named name false flags).map Flag.value)
    ((Flag.named name true flags).map Flag.value)

/-- Each filter from the flags of its own name. -/
def Filters.ofFlags (flags : List Flag) (offset : Int) : Filters where
  postType := Flag.lastRead .is flags
  user := Flag.lastRead .user flags
  parent := Flag.lastRead .inQuestion flags
  minVotes := Flag.lastRead .minVotes flags
  maxVotes := Flag.lastRead .maxVotes flags
  minAnswers := Flag.lastRead .minAnswers flags
  maxAnswers := Flag.lastRead .maxAnswers flags
  fromDate := Flag.lastRead .fromDate flags
  toDate := Flag.lastRead .toDate flags
  timeZoneOffset := offset

/-- The flags and tags ask for something that only questions have: a tag, a title or a number of
answers. -/
def OnlyQuestions (flags : List Flag) (tags : Terms) : Prop :=
  tags ≠ {} ∨ Terms.ofFlags .title flags ≠ {} ∨
    Flag.lastRead .minAnswers flags ≠ none ∨
    Flag.lastRead .maxAnswers flags ≠ none

instance (flags : List Flag) (tags : Terms) : Decidable (OnlyQuestions flags tags) :=
  inferInstanceAs (Decidable (_ ∨ _))

/-- The kind of post that is looked for: a question if nothing else can be meant, and otherwise
what the flags say. -/
def PostType.settled (flags : List Flag) (tags : Terms) : Option PostType :=
  if OnlyQuestions flags tags then some .question else Flag.lastRead .is flags

/-- The filters of all records. -/
def Filters.settled (flags : List Flag) (tags : Terms) (offset : Int) : Filters :=
  { Filters.ofFlags flags offset with
    postType := PostType.settled flags tags
    ids :=
      if PostType.settled flags tags = some .question then
        (Filters.ofFlags flags offset).parent.toList
      else [] }

namespace Flag

variable {name : FlagName} {excluded : Bool}

theorem named_append (front back : List Flag) :
    named name excluded (front ++ back) = named name excluded front ++ named name excluded back :=
  List.filter_append ..

/-- What a single flag gives under a name. -/
theorem last_read_singleton (flag : Flag) :
    lastRead name [flag] =
      if flag.name = name ∧ flag.excluded = false then name.value? flag.value else none := by
  by_cases h : flag.name = name ∧ flag.excluded = false
  · cases hread : name.value? flag.value <;> simp [lastRead, named, h, hread]
  · simp [lastRead, named, h]

/-- The flags further back are heard first. -/
theorem last_read_append (front back : List Flag) :
    lastRead name (front ++ back) = (lastRead name back).or (lastRead name front) := by
  simp [lastRead, named_append, List.filterMap_append, List.getLast?_append]

end Flag

/-- One more flag for a field goes to the end of its side. -/
theorem Terms.of_flags_concat (name : FlagName) (flags : List Flag) (flag : Flag) :
    Terms.ofFlags name (flags ++ [flag]) =
      if flag.name = name then (Terms.ofFlags name flags).add flag.value flag.excluded
      else Terms.ofFlags name flags := by
  obtain ⟨other, value, excluded⟩ := flag
  by_cases hname : other = name
  · cases excluded <;>
      simp [Terms.ofFlags, Terms.of_texts_add, Flag.named, List.filter_append, hname]
  · simp [Terms.ofFlags, Flag.named, List.filter_append, hname]

/-- The terms that two lists of flags give to a field. -/
theorem Terms.of_flags_append (name : FlagName) (front back : List Flag) :
    Terms.ofFlags name (front ++ back) =
      (Terms.ofFlags name front).append (Terms.ofFlags name back) := by
  simp only [Terms.ofFlags, ← Terms.of_texts_append, Flag.named_append, List.map_append]

namespace Resolution

/-- Only flags for the title change the terms of the title. -/
theorem add_title (resolution : Resolution) (flag : Flag) :
    (resolution.add flag).title =
      if flag.name = .title then resolution.title.add flag.value flag.excluded
      else resolution.title := by
  unfold add
  split
  · next hname => simp [hname]
  · next hname => simp [hname]
  · next hname _ =>
      rw [if_neg hname]
      split <;> rfl

/-- Only flags for the body change the terms of the body. -/
theorem add_body (resolution : Resolution) (flag : Flag) :
    (resolution.add flag).body =
      if flag.name = .body then resolution.body.add flag.value flag.excluded
      else resolution.body := by
  unfold add
  split
  · next hname => simp [hname]
  · next hname => simp [hname]
  · next _ hname =>
      rw [if_neg hname]
      split <;> rfl

/-- A flag changes at most the filter of its own name. -/
theorem add_filters (resolution : Resolution) (flag : Flag) :
    (resolution.add flag).filters =
      let filters := resolution.filters
      { postType := (Flag.lastRead .is [flag]).or filters.postType
        user := (Flag.lastRead .user [flag]).or filters.user
        parent := (Flag.lastRead .inQuestion [flag]).or filters.parent
        ids := filters.ids
        minVotes := (Flag.lastRead .minVotes [flag]).or filters.minVotes
        maxVotes := (Flag.lastRead .maxVotes [flag]).or filters.maxVotes
        minAnswers := (Flag.lastRead .minAnswers [flag]).or filters.minAnswers
        maxAnswers := (Flag.lastRead .maxAnswers [flag]).or filters.maxAnswers
        fromDate := (Flag.lastRead .fromDate [flag]).or filters.fromDate
        toDate := (Flag.lastRead .toDate [flag]).or filters.toDate
        timeZoneOffset := filters.timeZoneOffset } := by
  obtain ⟨name, value, excluded⟩ := flag
  cases excluded with
  | true => cases name <;> simp [add, Filters.apply, Flag.last_read_singleton]
  | false =>
      cases name with
      | is =>
          cases h : PostType.read? value <;>
            simp [add, Filters.apply, Filters.set, Filters.readPostType, Except.map,
              Flag.last_read_singleton, FlagName.value?, h]
      | user =>
          cases h : Id.read .user value <;>
            simp [add, Filters.apply, Filters.set, Filters.readId, Except.map, Except.mapError,
              Except.toOption, Flag.last_read_singleton, FlagName.value?, h]
      | inQuestion =>
          cases h : Id.read .post value <;>
            simp [add, Filters.apply, Filters.set, Filters.readId, Except.map, Except.mapError,
              Except.toOption, Flag.last_read_singleton, FlagName.value?, h]
      | minVotes | maxVotes | minAnswers | maxAnswers =>
          cases h : Text.Interval.signed64.read? value <;>
            simp [add, Filters.apply, Filters.set, Filters.readCount, Except.map,
              Flag.last_read_singleton, FlagName.value?, h]
      | fromDate | toDate =>
          simp [add, Filters.apply, Filters.set, Flag.last_read_singleton, FlagName.value?]
      | title | body => simp [add, Flag.last_read_singleton]

theorem of_flags_concat (flags : List Flag) (flag : Flag) (offset : Int) :
    ofFlags (flags ++ [flag]) offset = (ofFlags flags offset).add flag := by
  simp [ofFlags, List.foldl_append]

theorem of_flags_title (flags : List Flag) (offset : Int) :
    (ofFlags flags offset).title = Terms.ofFlags .title flags := by
  induction flags using List.reverseRecOn with
  | nil => rfl
  | append_singleton flags flag ih =>
      rw [of_flags_concat, add_title, Terms.of_flags_concat, ih]

theorem of_flags_body (flags : List Flag) (offset : Int) :
    (ofFlags flags offset).body = Terms.ofFlags .body flags := by
  induction flags using List.reverseRecOn with
  | nil => rfl
  | append_singleton flags flag ih =>
      rw [of_flags_concat, add_body, Terms.of_flags_concat, ih]

theorem of_flags_filters (flags : List Flag) (offset : Int) :
    (ofFlags flags offset).filters = Filters.ofFlags flags offset := by
  induction flags using List.reverseRecOn with
  | nil => rfl
  | append_singleton flags flag ih =>
      rw [of_flags_concat, add_filters, ih]
      simp only [Filters.ofFlags, Flag.last_read_append]

/-- The filters of all records, from the flags of each name. -/
theorem settled_filters_eq (flags : List Flag) (tags : Terms) (offset : Int) :
    (ofFlags flags offset).settledFilters tags = Filters.settled flags tags offset := by
  have hasks : (ofFlags flags offset).asksForQuestions tags = true ↔ OnlyQuestions flags tags := by
    simp only [asksForQuestions, of_flags_title, of_flags_filters, Filters.ofFlags, OnlyQuestions,
      Bool.or_eq_true, Terms.is_present_iff, Option.isSome_iff_ne_none, or_assoc]
  unfold settledFilters
  simp only [hasks, of_flags_filters]
  by_cases honly : OnlyQuestions flags tags
  · simp [Filters.settled, PostType.settled, Filters.ofFlags, honly]
  · by_cases htype : Flag.lastRead .is flags = some .question <;>
      simp [Filters.settled, PostType.settled, Filters.ofFlags, honly, htype]

end Resolution

end ForumQuery
