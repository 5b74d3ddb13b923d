import ForumQuery.Proofs.Resolution.ByName
import ForumQuery.Query

/-!
# Which records a search has

There is one record for each field with terms, in the order plain, tag, body, title, and all
records have the same filters. A search without terms has one record if some filter is set, and
none otherwise. `build_eq` says this for every list of flags and all terms of words;
`records_of_search` adds what it means for the records of a query.
-/

namespace ForumQuery

/-- The fields that a search can ask for, each with its terms, in the order of the records. -/
def candidates (flags : List Flag) (buckets : Buckets) : List (Field × Terms) :=
  [(.plain, buckets.plain), (.tag, buckets.tags), (.body, Terms.ofFlags .body flags),
    (.title, Terms.ofFlags .title flags)]

/-- Some filter is set exactly if not all but the time zone stand at their defaults. -/
theorem Filters.is_narrowing_iff (filters : Filters) :
    filters.isNarrowing = true ↔ filters ≠ { timeZoneOffset := filters.timeZoneOffset } := by
  obtain ⟨postType, user, parent, ids, minVotes, maxVotes, minAnswers, maxAnswers, fromDate,
    toDate, offset⟩ := filters
  simp only [isNarrowing, Bool.or_eq_true, Option.isSome_iff_ne_none, Bool.not_eq_true',
    List.isEmpty_eq_false_iff, ne_eq, Filters.mk.injEq]
  tauto

namespace SearchRecord

/-- The records in terms of the candidates. -/
theorem build_eq (flags : List Flag) (buckets : Buckets) (offset : Int) :
    build flags buckets offset =
      let filters := Filters.settled flags buckets.tags offset
      if ∀ candidate ∈ candidates flags buckets, candidate.2 = {} then
        if filters = { timeZoneOffset := offset } then [] else [⟨{}, none, filters⟩]
      else
        ((candidates flags buckets).filter fun candidate => candidate.2 ≠ {}).map
          fun candidate => ⟨candidate.2, some candidate.1, filters⟩ := by
  have hpresent : (fun candidate : Field × Terms => candidate.2.isPresent) =
      fun candidate => decide (candidate.2 ≠ {}) := by
    funext candidate
    rw [Bool.eq_iff_iff, Terms.is_present_iff, decide_eq_true_eq]
  have hnarrow := Filters.is_narrowing_iff (Filters.settled flags buckets.tags offset)
  have hnil : (candidates flags buckets).filter (fun candidate => decide (candidate.2 ≠ {})) = [] ↔
      ∀ candidate ∈ candidates flags buckets, candidate.2 = {} := by
    simp [List.filter_eq_nil_iff]
  unfold build Resolution.records
  simp only [Resolution.of_flags_title, Resolution.of_flags_body, Resolution.settled_filters_eq,
    hpresent]
  rw [← candidates]
  split
  · next hnone =>
      rw [if_pos (hnil.1 hnone)]
      simp only [hasScalarFilters, hnarrow]
      exact ite_not ..
  · next hsome =>
      rw [if_neg fun hempty => hsome (hnil.2 hempty)]
      rfl

/-- All records of a search have the same filters. -/
theorem filters_of_mem_build {flags : List Flag} {buckets : Buckets} {offset : Int}
    {record : SearchRecord} (h : record ∈ build flags buckets offset) :
    record.filters = Filters.settled flags buckets.tags offset := by
  rw [build_eq] at h
  simp only at h
  split at h
  · split at h
    · simp at h
    · rw [List.mem_singleton] at h
      rw [h]
  · obtain ⟨candidate, _, rfl⟩ := List.mem_map.1 h
    rfl

/-- The fields of the records stand in the fixed order, or there is a single record without one. -/
theorem fields_build (flags : List Flag) (buckets : Buckets) (offset : Int) :
    (build flags buckets offset).map field = [none] ∨
      ((build flags buckets offset).map field).Sublist
        [some .plain, some .tag, some .body, some .title] := by
  rw [build_eq]
  simp only
  split
  · split
    · exact Or.inr (List.nil_sublist _)
    · exact Or.inl rfl
  · refine Or.inr ?_
    rw [List.map_map]
    exact List.filter_sublist.map fun candidate : Field × Terms => some candidate.1

/-- A record without a field is the only one, has no terms and sets some filter. -/
theorem alone_of_field_none {flags : List Flag} {buckets : Buckets} {offset : Int}
    {record : SearchRecord} (h : record ∈ build flags buckets offset)
    (hfield : record.field = none) :
    build flags buckets offset = [record] ∧ record.terms = {} ∧ record.hasScalarFilters = true := by
  rw [build_eq] at h ⊢
  simp only at h ⊢
  split at h
  · next hempty =>
      rw [if_pos hempty]
      split at h
      · simp at h
      · next hset =>
          rw [List.mem_singleton] at h
          subst h
          exact ⟨if_neg hset, rfl, (Filters.is_narrowing_iff _).2 hset⟩
  · obtain ⟨candidate, _, rfl⟩ := List.mem_map.1 h
    simp at hfield

/-- A record with a field has terms on some side. -/
theorem terms_of_field {flags : List Flag} {buckets : Buckets} {offset : Int}
    {record : SearchRecord} (h : record ∈ build flags buckets offset)
    (hfield : record.field ≠ none) :
    record.terms.included ≠ [] ∨ record.terms.excluded ≠ [] := by
  rw [build_eq] at h
  simp only at h
  split at h
  · split at h
    · simp at h
    · rw [List.mem_singleton] at h
      simp [h] at hfield
  · obtain ⟨candidate, hcandidate, rfl⟩ := List.mem_map.1 h
    have hterms : candidate.2 ≠ {} := by simpa using (List.mem_filter.1 hcandidate).2
    obtain ⟨_, included, excluded⟩ := candidate
    cases included <;> cases excluded <;> simp_all

/-- The fields of the records, if there are any, differ from one another. -/
theorem fields_build_nodup (flags : List Flag) (buckets : Buckets) (offset : Int) :
    ((build flags buckets offset).map field).Nodup := by
  rcases fields_build flags buckets offset with h | h
  · rw [h]
    decide
  · exact List.Nodup.sublist h (by decide)

/-- No record asks for posts like, or linked from, another one. -/
theorem field_ne_reserved {flags : List Flag} {buckets : Buckets} {offset : Int}
    {record : SearchRecord} (h : record ∈ build flags buckets offset) :
    record.field ≠ some .similar ∧ record.field ≠ some .link := by
  have hmem : record.field ∈ (build flags buckets offset).map field := List.mem_map_of_mem h
  rcases fields_build flags buckets offset with hfields | hfields
  · rw [hfields, List.mem_singleton] at hmem
    simp [hmem]
  · have hfield := hfields.mem hmem
    simp only [List.mem_cons, List.not_mem_nil, or_false] at hfield
    rcases hfield with h | h | h | h <;> simp [h]

end SearchRecord

/-- A search has one record for each candidate with terms, carrying them; one record with its
filters alone if no candidate has terms and some filter is set; and otherwise none. So the records
of a query stand in the fixed order of fields without repetition, one without a field is alone and
sets a filter, and all others have terms. -/
theorem records_of_search :
    (∀ (flags : List Flag) (buckets : Buckets) (offset : Int),
      SearchRecord.build flags buckets offset =
        let filters := Filters.settled flags buckets.tags offset
        if ∀ candidate ∈ candidates flags buckets, candidate.2 = {} then
          if filters = { timeZoneOffset := offset } then [] else [⟨{}, none, filters⟩]
        else
          ((candidates flags buckets).filter fun candidate => candidate.2 ≠ {}).map
            fun candidate => ⟨candidate.2, some candidate.1, filters⟩) ∧
    ∀ (query : Text) (offset : Int),
      let records := Query.parse query offset
      (records.map SearchRecord.field = [none] ∨
        (records.map SearchRecord.field).Sublist
          [some .plain, some .tag, some .body, some .title]) ∧
      (records.map SearchRecord.field).Nodup ∧
      (∀ record ∈ records, record.field ≠ some .similar ∧ record.field ≠ some .link) ∧
      (∀ record ∈ records, record.field = none →
        records = [record] ∧ record.terms = {} ∧ record.hasScalarFilters = true) ∧
      ∀ record ∈ records, record.field ≠ none →
        record.terms.included ≠ [] ∨ record.terms.excluded ≠ [] := by
  refine ⟨SearchRecord.build_eq, fun query offset => ?_⟩
  exact ⟨SearchRecord.fields_build .., SearchRecord.fields_build_nodup ..,
    fun _ h => SearchRecord.field_ne_reserved h,
    fun _ h hfield => SearchRecord.alone_of_field_none h hfield,
    fun _ h hfield => SearchRecord.terms_of_field h hfield⟩

theorem records_of_search_votes :
    let record : SearchRecord := ⟨{}, none, { minVotes := some 3 }⟩
    record ∈ Query.parse "minvotes:3 title:\"\"".toList 0 ∧
      Query.parse "minvotes:3 title:\"\"".toList 0 = [record] ∧ record.hasScalarFilters = true := by
  intro record
  have hmem : record ∈ Query.parse "minvotes:3 title:\"\"".toList 0 := by decide +kernel
  obtain ⟨_, _, _, halone, _⟩ := records_of_search.2 "minvotes:3 title:\"\"".toList 0
  obtain ⟨hrecords, _, hscalar⟩ := halone record hmem rfl
  exact ⟨hmem, hrecords, hscalar⟩

end ForumQuery
