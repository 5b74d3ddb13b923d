import ForumQuery.CommandLine.Run
import ForumQuery.Proofs.Resolution.LastFlag
import Mathlib.Data.List.Basic

/-!
# The lines of a listing

A record is listed by a header and a line for each of its filters. Its terms are shown as literals,
which stay on one line whatever they hold; but dates are shown as they were typed. So the lines of a
listing are those of its records, unless the query gives a date that holds a line feed:
`lines_of_listing` says this, and `listing_forged` shows a date that adds a header and a filter to the
listing which no record has.
-/

namespace ForumQuery

namespace Text

/-- The lines of a text, each without the line feed that ends it. What stands behind the last line
feed is no line. -/
def lines (text : Text) : List Text :=
  (text.splitOn '\n').dropLast

/-- A line feed ends the first line. -/
theorem lines_append {line : Text} (hline : '\n' ∉ line) (rest : Text) :
    lines (line ++ '\n' :: rest) = line :: lines rest := by
  rw [lines, List.splitOn_append_cons_self_of_not_mem hline,
    List.dropLast_cons_of_ne_nil (List.splitOn_ne_nil '\n' rest), lines]

theorem unlines_cons (line : Text) (rest : List Text) :
    unlines (line :: rest) = line ++ '\n' :: unlines rest := by
  simp [unlines]

/-- Lines that are put together come apart again, if none has a line feed of its own. -/
theorem lines_unlines {texts : List Text} (h : ∀ line ∈ texts, '\n' ∉ line) :
    lines (unlines texts) = texts := by
  induction texts with
  | nil => rfl
  | cons line rest ih =>
      rw [unlines_cons, lines_append (h line List.mem_cons_self),
        ih fun other hother => h other (List.mem_cons_of_mem _ hother)]

theorem count_unlines_cons (line : Text) (rest : List Text) :
    (unlines (line :: rest)).count '\n' = line.count '\n' + (unlines rest).count '\n' + 1 := by
  rw [unlines_cons, List.count_append, List.count_cons_self, Nat.add_assoc]

/-- There is a line feed for each line. -/
theorem length_le_count_unlines (texts : List Text) :
    texts.length ≤ (unlines texts).count '\n' := by
  induction texts with
  | nil => exact Nat.zero_le _
  | cons line rest ih =>
      rw [count_unlines_cons, List.length_cons]
      omega

/-- There are as many line feeds as lines if and only if no line has one of its own. -/
theorem count_unlines_iff (texts : List Text) :
    (unlines texts).count '\n' = texts.length ↔ ∀ line ∈ texts, '\n' ∉ line := by
  induction texts with
  | nil => simp [unlines]
  | cons line rest ih =>
      have hrest := length_le_count_unlines rest
      rw [count_unlines_cons, List.length_cons, List.forall_mem_cons, ← ih, ← List.count_eq_zero]
      omega

/-! ## Texts on one line -/

/-- A number in hexadecimal stays on one line. -/
theorem hexadecimal_unbroken (n : Nat) : '\n' ∉ Nat.toDigits 16 n := by
  have hdigit : ∀ n < 16, '\n' ∉ [n.digitChar] := by decide
  induction n using Nat.strongRecOn with
  | ind n ih =>
      rw [Nat.toDigits_eq_if (by decide)]
      split
      · next hsmall => exact hdigit n hsmall
      · next hlarge =>
          rw [List.mem_append, not_or]
          exact ⟨ih (n / 16) (by omega), hdigit (n % 16) (by omega)⟩

/-- A literal stays on one line. -/
theorem literal_unbroken (text : Text) : '\n' ∉ literal text := by
  have hchar : ∀ c, '\n' ∉ literalChar c := by
    intro c
    unfold literalChar
    split
    · decide
    split
    · decide
    split
    · decide
    split
    · decide
    split
    · next h =>
        rcases h with rfl | rfl
        · decide
        · decide
    split
    · simpa [codePoint] using hexadecimal_unbroken c.toNat
    · next hfeed _ _ _ => simpa using Ne.symm hfeed
  simpa [literal] using fun c _ => hchar c

/-- A whole number in decimal stays on one line. -/
theorem decimal_unbroken (n : Int) : '\n' ∉ decimal n := by
  have hdigits : ∀ n, '\n' ∉ digits n := fun n h => absurd (isDigit_of_mem_digits h) (by decide)
  unfold decimal
  split
  · simpa using hdigits n.natAbs
  · exact hdigits n.natAbs

/-- What is put together from texts on one line is on one line. -/
theorem intercalate_unbroken {separator : Text} (hseparator : '\n' ∉ separator)
    {texts : List Text} (h : ∀ text ∈ texts, '\n' ∉ text) :
    '\n' ∉ List.intercalate separator texts := by
  induction texts with
  | nil => simp
  | cons first rest ih =>
      have hfirst : '\n' ∉ first := h first List.mem_cons_self
      have hrest := ih fun text htext => h text (List.mem_cons_of_mem _ htext)
      cases rest with
      | nil => simpa using hfirst
      | cons second rest =>
          rw [List.intercalate_cons_cons]
          simpa [hfirst, hseparator] using hrest

end Text

/-- An identifier stays on one line. -/
theorem Id.unbroken {kind : IdKind} (id : Id kind) : '\n' ∉ id.text := by
  intro h
  have hvalid := id.valid
  simp only [isId, Bool.and_eq_true, List.all_eq_true] at hvalid
  exact absurd (hvalid.2 '\n' h) (by decide)

/-! ## The lines of a record -/

/-- The filters that have a line in a listing. -/
inductive ListedFilter where
  | postType
  | user
  | inQuestion
  | ids
  | votes
  | answers
  | dates
  deriving DecidableEq

namespace ListedFilter

/-- All of them, in the order of their lines. -/
def all : List ListedFilter :=
  [postType, user, inQuestion, ids, votes, answers, dates]

/-- How the line of a filter begins. -/
def label : ListedFilter → Text
  | postType => "  post type: ".toList
  | user => "  user: ".toList
  | inQuestion => "  in question: ".toList
  | ids => "  ids: ".toList
  | votes => "  votes: ".toList
  | answers => "  answers: ".toList
  | dates => "  dates: ".toList

/-- What the line of a filter shows, if the filter is set. -/
def value? (filters : Filters) : ListedFilter → Option Text
  | postType => filters.postType.map PostType.text
  | user => filters.user.map Id.text
  | inQuestion => filters.parent.map Id.text
  | ids => SearchRecord.idList filters.ids
  | votes => SearchRecord.bounds filters.minVotes filters.maxVotes
  | answers => SearchRecord.bounds filters.minAnswers filters.maxAnswers
  | dates => SearchRecord.dates filters

/-- The line of a filter, if the filter is set. -/
def line? (filters : Filters) (listed : ListedFilter) : Option Text :=
  (listed.value? filters).map (listed.label ++ ·)

/-- A line shows by its label which filter it is for. -/
theorem label_of_line (listed other : ListedFilter) (value : Text) :
    listed.label.isPrefixOf (other.label ++ value) = decide (other = listed) := by
  cases listed <;> cases other <;> rfl

/-- Of the lines for filters those with the label of a filter are the line of that filter. -/
theorem filter_lines (filters : Filters) (listed : ListedFilter) :
    (all.filterMap (line? filters)).filter listed.label.isPrefixOf =
      (listed.line? filters).toList := by
  have hlabel : ∀ other : ListedFilter, (other.line? filters).filter listed.label.isPrefixOf =
      if decide (other = listed) = true then other.line? filters else none := by
    intro other
    cases hvalue : other.value? filters with
    | none => simp [line?, hvalue]
    | some value => simp [line?, hvalue, Option.filter_some, label_of_line]
  have hone : all.filter (fun other => decide (other = listed)) = [listed] := by
    cases listed <;> rfl
  rw [List.filter_filterMap, funext hlabel, ← List.filterMap_filter, hone, List.filterMap_cons]
  cases listed.line? filters <;> rfl

end ListedFilter

/-- A date of the filters holds a line feed. -/
def Filters.BreaksDate (filters : Filters) : Prop :=
  ∃ date, (filters.fromDate = some date ∨ filters.toDate = some date) ∧ '\n' ∈ date

namespace ListedFilter

/-- Two bounds stay on one line. -/
theorem bounds_unbroken {low high : Option Int} {text : Text}
    (h : SearchRecord.bounds low high = some text) : '\n' ∉ text := by
  have hbound : ∀ count, '\n' ∉ SearchRecord.bound count := by
    intro count
    cases count with
    | none => decide
    | some n => exact Text.decimal_unbroken n
  unfold SearchRecord.bounds at h
  split at h
  · cases h
  · obtain rfl := Option.some.inj h
    simp [hbound]

/-- Identifiers stay on one line. -/
theorem id_list_unbroken {ids : List PostId} {text : Text}
    (h : SearchRecord.idList ids = some text) : '\n' ∉ text := by
  unfold SearchRecord.idList at h
  split at h
  · cases h
  · obtain rfl := Option.some.inj h
    refine Text.intercalate_unbroken (by decide) fun text htext => ?_
    obtain ⟨id, _, rfl⟩ := List.mem_map.1 htext
    exact id.unbroken

/-- Only the line for the dates may be broken. -/
theorem value_unbroken {filters : Filters} {listed : ListedFilter} (hlisted : listed ≠ dates)
    {value : Text} (h : listed.value? filters = some value) : '\n' ∉ value := by
  cases listed with
  | postType =>
      obtain ⟨type, _, rfl⟩ := Option.map_eq_some_iff.1 h
      cases type <;> decide
  | user | inQuestion =>
      obtain ⟨id, _, rfl⟩ := Option.map_eq_some_iff.1 h
      exact id.unbroken
  | ids => exact id_list_unbroken h
  | votes | answers => exact bounds_unbroken h
  | dates => exact absurd rfl hlisted

/-- The line for the dates is broken exactly if one of them is. -/
theorem dates_broken_iff {filters : Filters} {value : Text}
    (h : dates.value? filters = some value) : '\n' ∈ value ↔ filters.BreaksDate := by
  have hdate : ∀ date : Option Text, '\n' ∈ date.getD ['*'] ↔
      ∃ text, date = some text ∧ '\n' ∈ text := by
    intro date
    cases date <;> simp
  have hoffset := Text.decimal_unbroken filters.timeZoneOffset
  replace h : SearchRecord.dates filters = some value := h
  unfold SearchRecord.dates at h
  split at h
  · cases h
  · obtain rfl := Option.some.inj h
    simp [hdate, hoffset, Filters.BreaksDate, or_and_right, exists_or]

/-- Filters with a broken date have a line for their dates. -/
theorem value_of_breaks {filters : Filters} (h : filters.BreaksDate) :
    ∃ value, dates.value? filters = some value := by
  obtain ⟨date, hdate, _⟩ := h
  have hsome : ¬ (filters.fromDate.isNone && filters.toDate.isNone) = true := by
    rcases hdate with hdate | hdate <;> simp [hdate]
  exact ⟨_, if_neg hsome⟩

end ListedFilter

namespace SearchRecord

/-- A record is listed by its header and the lines of its filters. -/
theorem describe_eq (record : SearchRecord) :
    record.describe =
      record.header :: ListedFilter.all.filterMap (ListedFilter.line? record.filters) := by
  have hitem : ∀ (name : String) (listed : ListedFilter),
      listed.label = ' ' :: ' ' :: name.toList ++ ": ".toList →
      item name (listed.value? record.filters) = (listed.line? record.filters).toList := by
    intro name listed hlabel
    rw [item, ListedFilter.line?, hlabel]
  rw [List.filterMap_eq_flatMap_toList, ListedFilter.all]
  simp only [List.flatMap_cons, List.flatMap_nil, List.append_nil]
  rw [← hitem "post type" .postType rfl, ← hitem "user" .user rfl,
    ← hitem "in question" .inQuestion rfl, ← hitem "ids" .ids rfl, ← hitem "votes" .votes rfl,
    ← hitem "answers" .answers rfl, ← hitem "dates" .dates rfl]
  simp only [describe, ListedFilter.value?, List.append_assoc, List.cons_append, List.nil_append]

/-- A header stays on one line. -/
theorem header_unbroken (record : SearchRecord) : '\n' ∉ record.header := by
  have hfield : ∀ field : Field, '\n' ∉ field.text := by
    intro field
    cases field <;> decide
  unfold header
  split
  · next field _ => simp [hfield, Text.literal_unbroken]
  · decide

/-- Of the lines of a record, only the one for the dates may be broken, and it is exactly if a date
is. -/
theorem broken_line_iff {record : SearchRecord} {line : Text} (h : line ∈ record.describe) :
    '\n' ∈ line ↔
      ListedFilter.dates.line? record.filters = some line ∧ record.filters.BreaksDate := by
  have hdates : ∀ {value}, ListedFilter.dates.value? record.filters = some value →
      ('\n' ∈ ListedFilter.dates.label ++ value ↔ record.filters.BreaksDate) := by
    intro value hvalue
    rw [← ListedFilter.dates_broken_iff hvalue, List.mem_append]
    exact or_iff_right (by decide)
  constructor
  · intro hbroken
    rw [describe_eq, List.mem_cons, List.mem_filterMap] at h
    obtain rfl | ⟨listed, _, hline⟩ := h
    · exact absurd hbroken (header_unbroken record)
    obtain ⟨value, hvalue, rfl⟩ := Option.map_eq_some_iff.1 hline
    by_cases hlisted : listed = .dates
    · subst hlisted
      exact ⟨hline, (hdates hvalue).1 hbroken⟩
    · have hlabel : '\n' ∉ listed.label := by cases listed <;> decide
      have hunbroken := ListedFilter.value_unbroken hlisted hvalue
      exact absurd hbroken (by simp [hlabel, hunbroken])
  · rintro ⟨hline, hbreaks⟩
    obtain ⟨value, hvalue, rfl⟩ := Option.map_eq_some_iff.1 hline
    exact (hdates hvalue).2 hbreaks

/-- A record has a broken line exactly if a date of its filters is broken. -/
theorem broken_iff (record : SearchRecord) :
    (∃ line ∈ record.describe, '\n' ∈ line) ↔ record.filters.BreaksDate := by
  constructor
  · rintro ⟨line, hline, hbroken⟩
    exact ((broken_line_iff hline).1 hbroken).2
  · intro hbreaks
    obtain ⟨value, hvalue⟩ := ListedFilter.value_of_breaks hbreaks
    have hline : ListedFilter.dates.line? record.filters =
        some (ListedFilter.dates.label ++ value) := by
      rw [ListedFilter.line?, hvalue, Option.map_some]
    have hmem : ListedFilter.dates.label ++ value ∈ record.describe := by
      rw [describe_eq]
      exact List.mem_cons_of_mem _ (List.mem_filterMap.2 ⟨.dates, by decide, hline⟩)
    exact ⟨_, hmem, (broken_line_iff hmem).2 ⟨hline, hbreaks⟩⟩

/-- The line of a header is told from those of filters by its bracket. -/
theorem filter_headers (record : SearchRecord) :
    record.describe.filter (fun line => decide (line.head? = some '[')) = [record.header] := by
  have hheader : record.header.head? = some '[' := by
    unfold header
    split <;> rfl
  have hlabel : ∀ (listed : ListedFilter) (value : Text),
      (listed.label ++ value).head? = some ' ' := by
    intro listed value
    cases listed <;> rfl
  rw [describe_eq, List.filter_cons_of_pos (by simpa using hheader), List.filter_eq_nil_iff.2]
  intro line hline
  obtain ⟨listed, _, hline⟩ := List.mem_filterMap.1 hline
  obtain ⟨value, _, rfl⟩ := Option.map_eq_some_iff.1 hline
  simp [hlabel]

/-- Of the lines of a record those with the label of a filter are the line of that filter. -/
theorem filter_label (record : SearchRecord) (listed : ListedFilter) :
    record.describe.filter listed.label.isPrefixOf = (listed.line? record.filters).toList := by
  have hheader : listed.label.isPrefixOf record.header = false := by
    unfold header
    split <;> cases listed <;> rfl
  rw [describe_eq, List.filter_cons_of_neg (by simp [hheader]), ListedFilter.filter_lines]

/-- The listing of records has their lines. -/
theorem listing_eq {records : List SearchRecord} (h : records ≠ []) :
    listing records = Text.unlines (records.flatMap describe) :=
  if_neg (by simpa using h)

end SearchRecord

/-! ## The listing of a query -/

/-- The last date that the flags give for one of the sides holds a line feed. -/
def Flag.BreaksDate (flags : List Flag) : Prop :=
  ∃ date, (LastAsked .fromDate flags (some date) ∨ LastAsked .toDate flags (some date)) ∧
    '\n' ∈ date

/-- The dates of the settled filters are the last ones that the flags give. -/
theorem Filters.settled_breaks_date (flags : List Flag) (tags : Terms) (offset : Int) :
    (settled flags tags offset).BreaksDate ↔ Flag.BreaksDate flags := by
  unfold BreaksDate Flag.BreaksDate
  simp only [Flag.last_asked_iff]
  rfl

/-- A date is enough for a record. -/
theorem SearchRecord.build_ne_nil {flags : List Flag} (h : Flag.BreaksDate flags)
    (buckets : Buckets) (offset : Int) : build flags buckets offset ≠ [] := by
  rw [build_eq]
  simp only
  split
  · have hset : Filters.settled flags buckets.tags offset ≠ { timeZoneOffset := offset } := by
      intro hdefault
      rw [← Filters.settled_breaks_date flags buckets.tags offset, hdefault] at h
      obtain ⟨_, hdate | hdate, _⟩ := h <;> cases hdate
    rw [if_neg hset]
    exact List.cons_ne_nil _ _
  · next hpresent =>
      intro hnil
      rw [List.map_eq_nil_iff, List.filter_eq_nil_iff] at hnil
      exact hpresent fun candidate hcandidate => by simpa using hnil candidate hcandidate

/-- Each record of a query is listed by its header and a line for each filter that it has, in a fixed
order. Only the line for the dates can hold a line feed, and it does exactly if the last date that the
query gives for one of the sides does. Just without such a date the listing has one line for each
header and filter: its lines are those of the records one after the other, those with a bracket in
front are the headers, and those with the label of a filter are the lines of the records that have
it. -/
theorem lines_of_listing (query : Text) (offset : Int) :
    let flags := (Query.read query offset).extraction.flags
    let records := Query.parse query offset
    let listing := SearchRecord.listing records
    (∀ record ∈ records,
      record.describe =
        record.header :: ListedFilter.all.filterMap (ListedFilter.line? record.filters) ∧
      ((∃ line ∈ record.describe, '\n' ∈ line) ↔ Flag.BreaksDate flags) ∧
      ∀ line ∈ record.describe, '\n' ∈ line ↔
        ListedFilter.dates.line? record.filters = some line ∧ Flag.BreaksDate flags) ∧
    (records = [] → ¬ Flag.BreaksDate flags ∧ listing.lines = ["no search records".toList]) ∧
    (records ≠ [] →
      (listing.count '\n' = (records.flatMap SearchRecord.describe).length ↔
        ¬ Flag.BreaksDate flags)) ∧
    (records ≠ [] → ¬ Flag.BreaksDate flags →
      listing.lines = records.flatMap SearchRecord.describe ∧
      listing.lines.filter (fun line => decide (line.head? = some '[')) =
        records.map SearchRecord.header ∧
      ∀ listed : ListedFilter, listing.lines.filter listed.label.isPrefixOf =
        records.filterMap fun record => listed.line? record.filters) := by
  intro flags records listing
  have hbreaks : ∀ record ∈ records, record.filters.BreaksDate ↔ Flag.BreaksDate flags := by
    intro record hrecord
    rw [SearchRecord.filters_of_mem_build hrecord]
    exact Filters.settled_breaks_date ..
  have hlisting : records ≠ [] →
      listing = Text.unlines (records.flatMap SearchRecord.describe) := SearchRecord.listing_eq
  have hunbroken : ¬ Flag.BreaksDate flags →
      ∀ line ∈ records.flatMap SearchRecord.describe, '\n' ∉ line := by
    intro hnone line hline hbroken
    obtain ⟨record, hrecord, hline⟩ := List.mem_flatMap.1 hline
    exact hnone ((hbreaks record hrecord).1 ((SearchRecord.broken_line_iff hline).1 hbroken).2)
  refine ⟨fun record hrecord => ⟨record.describe_eq, ?_, ?_⟩, fun hnone => ⟨?_, ?_⟩,
    fun hsome => ?_, fun hsome hnone => ?_⟩
  · rw [record.broken_iff, hbreaks record hrecord]
  · intro line hline
    rw [SearchRecord.broken_line_iff hline, hbreaks record hrecord]
  · exact fun hbroken => SearchRecord.build_ne_nil hbroken _ _ hnone
  · show (SearchRecord.listing records).lines = _
    rw [hnone]
    rfl
  · rw [hlisting hsome, Text.count_unlines_iff]
    refine ⟨fun hlines hbroken => ?_, hunbroken⟩
    obtain ⟨record, hrecord⟩ := List.exists_mem_of_ne_nil records hsome
    obtain ⟨line, hline, hfeed⟩ :=
      record.broken_iff.2 ((hbreaks record hrecord).2 hbroken)
    exact hlines line (List.mem_flatMap.2 ⟨record, hrecord, hline⟩) hfeed
  · have hlines : listing.lines = records.flatMap SearchRecord.describe := by
      rw [hlisting hsome, Text.lines_unlines (hunbroken hnone)]
    refine ⟨hlines, ?_, fun listed => ?_⟩
    · rw [hlines, List.filter_flatMap]
      simp only [SearchRecord.filter_headers]
      exact List.map_eq_flatMap.symm
    · rw [hlines, List.filter_flatMap, List.filterMap_eq_flatMap_toList]
      simp only [SearchRecord.filter_label]

/-- A phrase with a line feed stays on the line of the header, and a bound and a date without one add
a line each. The listing of an empty query has one line. -/
theorem lines_of_listing_phrase :
    let query := "\"a\n[tag]\" minvotes:2 from:2024-1-1".toList
    let flags : List Flag := (Query.read query 0).extraction.flags
    let filters : Filters := { minVotes := some 2, fromDate := some "2024-1-1".toList }
    let record : SearchRecord := ⟨⟨"\"a\n[tag]\"".toList, []⟩, some .plain, filters⟩
    let header := "[plain] terms: \"\\\"a\\n[tag]\\\"\" excluded: \"\"".toList
    let listing := SearchRecord.listing (Query.parse query 0)
    Query.parse query 0 = [record] ∧ ¬ Flag.BreaksDate flags ∧ record.header = header ∧
      header ∈ record.describe ∧ '\n' ∉ header ∧ listing.count '\n' = 3 ∧
      listing.lines =
        [header, "  votes: 2 .. *".toList, "  dates: 2024-1-1 .. * (offset 0s)".toList] ∧
      listing.lines.filter ListedFilter.answers.label.isPrefixOf = [] ∧
      Query.parse [] 0 = [] ∧
      (SearchRecord.listing (Query.parse [] 0)).lines = ["no search records".toList] := by
  intro query flags filters record header listing
  have hrecords : Query.parse query 0 = [record] := by decide +kernel
  have hrecord : record ∈ Query.parse query 0 := by simp [hrecords]
  have hsome : Query.parse query 0 ≠ [] := by simp [hrecords]
  have hheader : record.header = header := by decide +kernel
  have hdescribe : record.describe =
      [header, "  votes: 2 .. *".toList, "  dates: 2024-1-1 .. * (offset 0s)".toList] := by
    decide +kernel
  have hmem : header ∈ record.describe := by simp [hdescribe]
  obtain ⟨hshape, _, hcount, hlines⟩ := lines_of_listing query 0
  obtain ⟨_, hbroken, hline⟩ := hshape record hrecord
  have hquiet : ¬ Flag.BreaksDate flags := by
    rw [← hbroken, hdescribe]
    decide +kernel
  obtain ⟨hall, _, hlabel⟩ := hlines hsome hquiet
  obtain ⟨_, hempty, _⟩ := lines_of_listing [] 0
  have hheaderLine : '\n' ∉ header := fun hfeed => hquiet ((hline header hmem).1 hfeed).2
  refine ⟨hrecords, hquiet, hheader, hmem, hheaderLine, ((hcount hsome).2 hquiet).trans ?_,
    hall.trans ?_, (hlabel .answers).trans ?_, rfl, (hempty rfl).2⟩
  · rw [hrecords, List.flatMap_singleton, hdescribe]
    rfl
  · rw [hrecords, List.flatMap_singleton, hdescribe]
  · rw [hrecords]
    rfl

/-- A date is typed over several lines, and is listed as it was typed. The listing of the one record,
which has a date only, then shows a second header and a line for votes. It is not so that no line of a
record holds a line feed. -/
theorem listing_forged :
    let query := "from:\"2024-1-1\n[filters only]\n  votes: 1 .. 2\n\"".toList
    let date := "2024-1-1\n[filters only]\n  votes: 1 .. 2\n".toList
    let record : SearchRecord := { filters := { fromDate := some date } }
    let listing := SearchRecord.listing (Query.parse query 0)
    Query.parse query 0 = [record] ∧
      (¬ ∀ (query : Text) (offset : Int), ∀ record ∈ Query.parse query offset,
        ∀ line ∈ record.describe, '\n' ∉ line) ∧
      listing.lines =
        ["[filters only]".toList, "  dates: 2024-1-1".toList, "[filters only]".toList,
          "  votes: 1 .. 2".toList, " .. * (offset 0s)".toList] ∧
      record.describe.length = 2 ∧ ListedFilter.votes.line? record.filters = none ∧
      CommandLine.run {} ["parse".toList, query] = some ⟨0, listing, []⟩ := by
  intro query date record listing
  have hrecords : Query.parse query 0 = [record] := by decide +kernel
  have hrecord : record ∈ Query.parse query 0 := by simp [hrecords]
  have hbroken : ∃ line ∈ record.describe, '\n' ∈ line := by decide +kernel
  refine ⟨hrecords, fun h => ?_, ?_, by decide +kernel, rfl, by decide +kernel⟩
  · obtain ⟨line, hline, hfeed⟩ := hbroken
    exact h query 0 record hrecord line hline hfeed
  · show (SearchRecord.listing (Query.parse query 0)).lines = _
    rw [hrecords]
    decide +kernel

end ForumQuery
