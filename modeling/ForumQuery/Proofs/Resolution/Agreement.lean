import ForumQuery.Proofs.Resolution.Records
import Mathlib.Logic.Basic

/-!
# Records with the same filters

Which filters a record has is asked in three ways: whether two records are equal, whether they have
the same filters, and whether there is a filter at all. `same_filters_equivalence` says that the
three look at the same filters, so that none is left out of the comparison or of the search for
one.
-/

namespace ForumQuery

namespace SearchRecord

variable {left right other : SearchRecord}

/-- Records have the same filters if no filter differs. -/
theorem same_filters_iff : left.sameFilters right = true ↔ left.filters = right.filters :=
  Filters.agree_iff

/-- Records are equal if they have the same filters, the same terms and look in the same field. -/
theorem eq_iff_same_filters :
    left = right ↔
      left.sameFilters right = true ∧ left.terms.included = right.terms.included ∧
        left.terms.excluded = right.terms.excluded ∧ left.field = right.field := by
  obtain ⟨⟨included, excluded⟩, field, filters⟩ := left
  obtain ⟨⟨included', excluded'⟩, field', filters'⟩ := right
  simp only [same_filters_iff, SearchRecord.mk.injEq, Terms.mk.injEq]
  tauto

/-- A record without a filter is one that has the filters of an empty record in its time zone. -/
theorem scalar_filters_false_iff (record : SearchRecord) :
    record.hasScalarFilters = false ↔
      record.sameFilters { filters := { timeZoneOffset := record.filters.timeZoneOffset } } =
        true := by
  rw [same_filters_iff, ← Bool.not_eq_true]
  exact (not_congr (Filters.is_narrowing_iff record.filters)).trans not_not

/-- Where filters are the same, there is a filter in both records or in none. -/
theorem scalar_filters_congr (h : left.sameFilters right = true) :
    left.hasScalarFilters = right.hasScalarFilters :=
  congrArg Filters.isNarrowing (same_filters_iff.1 h)

/-- Records are equal exactly if their filters are the same and so are their terms, on either side,
and the field of these. A record has no filter exactly if its filters are those of an empty record in
its time zone. So to have the same filters is an equivalence, which tells no record with a filter from
one without; and other terms, in whatever field, change none of this. -/
theorem same_filters_equivalence :
    (∀ left right : SearchRecord, left = right ↔
      left.sameFilters right = true ∧ left.terms.included = right.terms.included ∧
        left.terms.excluded = right.terms.excluded ∧ left.field = right.field) ∧
    (∀ record : SearchRecord, record.hasScalarFilters = false ↔
      record.sameFilters { filters := { timeZoneOffset := record.filters.timeZoneOffset } } =
        true) ∧
    Equivalence (fun left right : SearchRecord => left.sameFilters right = true) ∧
    (∀ left right : SearchRecord, left.sameFilters right = true →
      left.hasScalarFilters = right.hasScalarFilters) ∧
    ∀ (record : SearchRecord) (field : Field) (terms : Terms),
      (record.withTerms field terms).hasScalarFilters = record.hasScalarFilters ∧
      ∀ other, (record.withTerms field terms).sameFilters other = record.sameFilters other ∧
        other.sameFilters (record.withTerms field terms) = other.sameFilters record := by
  refine ⟨fun _ _ => eq_iff_same_filters, scalar_filters_false_iff, ⟨?_, ?_, ?_⟩,
    fun _ _ => scalar_filters_congr, fun _ _ _ => ⟨rfl, fun _ => ⟨rfl, rfl⟩⟩⟩
  · exact fun record => same_filters_iff.2 rfl
  · exact fun h => same_filters_iff.2 (same_filters_iff.1 h).symm
  · exact fun h hnext => same_filters_iff.2 ((same_filters_iff.1 h).trans (same_filters_iff.1 hnext))

/-- A date that is set to the empty text is a filter, and other terms leave it one. -/
theorem same_filters_equivalence_empty_date :
    let record : SearchRecord := { filters := { fromDate := some [], timeZoneOffset := 3600 } }
    let other := record.withTerms .tag ⟨"rust".toList, []⟩
    record.sameFilters other = true ∧ record ≠ other ∧
      record.sameFilters { filters := { timeZoneOffset := 3600 } } = false ∧
      record.hasScalarFilters = other.hasScalarFilters ∧ other.hasScalarFilters = true := by
  intro record other
  obtain ⟨_, _, _, hcongr, _⟩ := same_filters_equivalence
  have hsame : record.sameFilters other = true := rfl
  exact ⟨hsame, by decide, rfl, hcongr record other hsame, rfl⟩

end SearchRecord

end ForumQuery
