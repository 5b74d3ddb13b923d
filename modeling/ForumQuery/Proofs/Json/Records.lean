import ForumQuery.CommandLine.Run
import ForumQuery.Proofs.Json.Unambiguous
import Mathlib.Data.List.Forall2

/-!
# Records are told apart by their JSON text

What is missing in a record is the empty text in its JSON form, and nothing that is there is empty
but maybe a date. `print_records_eq_iff` says that the printed lists of records are equal exactly if
the lists are, up to dates that are missing in the one and empty in the other.
-/

namespace ForumQuery

/-- An identifier is its text. -/
theorem Id.text_inj {kind : IdKind} {left right : Id kind} (h : left.text = right.text) :
    left = right := by
  cases left
  cases right
  cases h
  rfl

theorem Id.text_ne_nil {kind : IdKind} (id : Id kind) : id.text ≠ [] := by
  intro h
  have hvalid := id.valid
  rw [h] at hvalid
  exact absurd hvalid (by decide)

theorem Field.text_inj {left right : Field} (h : left.text = right.text) : left = right := by
  revert h
  cases left <;> cases right <;> decide

theorem Field.text_ne_nil (field : Field) : field.text ≠ [] := by
  cases field <;> decide

theorem PostType.text_inj {left right : PostType} (h : left.text = right.text) : left = right := by
  revert h
  cases left <;> cases right <;> decide

theorem PostType.text_ne_nil (type : PostType) : type.text ≠ [] := by
  cases type <;> decide

namespace Json

/-- A text that is never empty shows whether it is missing. -/
theorem of_text_inj {α : Type} {text : α → Text} (hne : ∀ a, text a ≠ [])
    (hinj : ∀ {a b}, text a = text b → a = b) (left right : Option α) :
    ofText? (left.map text) = ofText? (right.map text) ↔ left = right := by
  refine ⟨fun h => ?_, fun h => h ▸ rfl⟩
  have htext := Json.string.inj h
  cases left with
  | none =>
      cases right with
      | none => rfl
      | some b => exact absurd htext.symm (hne b)
  | some a =>
      cases right with
      | none => exact absurd htext (hne a)
      | some b => exact congrArg some (hinj htext)

theorem of_count_inj {left right : Option Int} : ofCount left = ofCount right ↔ left = right := by
  cases left <;> cases right <;> simp [ofCount]

end Json

/-- The dates are the same, or one is missing and the other is empty. -/
def SameDate (left right : Option Text) : Prop :=
  left = right ∨ left = none ∧ right = some [] ∨ left = some [] ∧ right = none

theorem same_date_iff {left right : Option Text} :
    SameDate left right ↔ Json.ofText? left = Json.ofText? right := by
  cases left <;> cases right <;> simp [SameDate, Json.ofText?, eq_comm]

/-- The records are the same in everything, but a date may be missing in the one and empty in the
other. -/
structure SearchRecord.SameButDates (left right : SearchRecord) : Prop where
  fromDate : SameDate left.filters.fromDate right.filters.fromDate
  toDate : SameDate left.filters.toDate right.filters.toDate
  others : right = { left with filters := { left.filters with
    fromDate := right.filters.fromDate, toDate := right.filters.toDate } }

/-- The JSON form of identifiers shows them. -/
theorem Json.of_ids_inj {left right : List PostId} :
    left.map (fun id => Json.string id.text) = right.map (fun id => Json.string id.text) ↔
      left = right := by
  exact List.map_inj_right fun a b h => Id.text_inj (Json.string.inj h)

/-- Records with one JSON form are the same but for their dates. -/
theorem SearchRecord.to_json_eq_iff {left right : SearchRecord} :
    left.toJson = right.toJson ↔ left.SameButDates right := by
  have hfield := Json.of_text_inj Field.text_ne_nil Field.text_inj
    left.field right.field
  have htype := Json.of_text_inj PostType.text_ne_nil PostType.text_inj
    left.filters.postType right.filters.postType
  have huser := Json.of_text_inj Id.text_ne_nil Id.text_inj
    left.filters.user right.filters.user
  have hparent := Json.of_text_inj Id.text_ne_nil Id.text_inj
    left.filters.parent right.filters.parent
  simp only [toJson, Json.object.injEq, List.cons.injEq, Prod.mk.injEq, true_and, and_true,
    Json.string.injEq, Json.array.injEq, Json.integer.injEq, hfield, htype, huser, hparent,
    Json.of_ids_inj, Json.of_count_inj, ← same_date_iff]
  constructor
  · rintro ⟨hincluded, hexcluded, hfield, htype, huser, hparent, hids, hminVotes, hmaxVotes,
      hminAnswers, hmaxAnswers, hfrom, hto, hoffset⟩
    refine ⟨hfrom, hto, ?_⟩
    obtain ⟨⟨_, _⟩, _, _, _, _, _, _, _, _, _, _, _, _⟩ := left
    obtain ⟨⟨_, _⟩, _, _, _, _, _, _, _, _, _, _, _, _⟩ := right
    subst hincluded hexcluded hfield htype huser hparent hids hminVotes hmaxVotes hminAnswers
      hmaxAnswers hoffset
    rfl
  · rintro ⟨hfrom, hto, hothers⟩
    rw [hothers]
    exact ⟨rfl, rfl, rfl, rfl, rfl, rfl, rfl, rfl, rfl, rfl, rfl, hfrom, hto, rfl⟩

/-- Lists of records print the same text exactly if they are as long as each other and have in each
place records that are the same, up to a date that is missing in the one and empty in the other. -/
theorem print_records_eq_iff (left right : List SearchRecord) :
    CommandLine.document (.array (left.map SearchRecord.toJson)) =
        CommandLine.document (.array (right.map SearchRecord.toJson)) ↔
      List.Forall₂ SearchRecord.SameButDates left right := by
  have hlists : left.map SearchRecord.toJson = right.map SearchRecord.toJson ↔
      List.Forall₂ SearchRecord.SameButDates left right := by
    rw [← List.forall₂_eq_eq_eq, List.forall₂_map_left_iff, List.forall₂_map_right_iff]
    simp only [SearchRecord.to_json_eq_iff]
  rw [← hlists]
  constructor
  · intro h
    exact Json.array.inj (Json.text_inj (List.append_cancel_right h))
  · intro h
    rw [h]

end ForumQuery
