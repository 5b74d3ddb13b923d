import Mathlib.Data.List.Basic

/-!
# Interleaved lists

Two lists are interleaved if their elements stand in one list in which both keep their own order.
`Interleaved.filter_map` says that what is read off the elements of both lists is interleaved as
well. So elements off which nothing is read may be left out, as `Interleaved.filter_map_left` says.
-/

namespace ForumQuery

/-- `Interleaved left right whole` says that the whole list has the elements of both lists, those
of each list in their order. -/
inductive Interleaved {α : Type} : List α → List α → List α → Prop where
  | nil : Interleaved [] [] []
  | left (element left right whole) :
      Interleaved left right whole → Interleaved (element :: left) right (element :: whole)
  | right (element left right whole) :
      Interleaved left right whole → Interleaved left (element :: right) (element :: whole)

namespace Interleaved

variable {α β : Type} {left right whole : List α}

theorem symm (h : Interleaved left right whole) : Interleaved right left whole := by
  induction h with
  | nil => exact .nil
  | left element _ _ _ _ ih => exact .right element _ _ _ ih
  | right element _ _ _ _ ih => exact .left element _ _ _ ih

/-- The whole list has the elements of both lists and no others. -/
theorem mem_iff (h : Interleaved left right whole) {element : α} :
    element ∈ whole ↔ element ∈ left ∨ element ∈ right := by
  induction h with
  | nil => simp
  | left _ _ _ _ _ ih => simp only [List.mem_cons, ih, or_assoc]
  | right _ _ _ _ _ ih => simp only [List.mem_cons, ih, or_left_comm]

/-- Nothing can be interleaved only with the list itself. -/
theorem eq_left (h : Interleaved left [] whole) : whole = left := by
  induction left generalizing whole with
  | nil => cases h; rfl
  | cons element left ih =>
      cases h with
      | left _ _ _ whole h => rw [ih h]

/-- What is read off the elements of both lists is interleaved as they are. -/
theorem filter_map (h : Interleaved left right whole) (read : α → Option β) :
    Interleaved (left.filterMap read) (right.filterMap read) (whole.filterMap read) := by
  induction h with
  | nil => exact .nil
  | left element left right whole _ ih =>
      cases hread : read element with
      | none => rwa [List.filterMap_cons_none hread, List.filterMap_cons_none hread]
      | some value =>
          rw [List.filterMap_cons_some hread, List.filterMap_cons_some hread]
          exact .left _ _ _ _ ih
  | right element left right whole _ ih =>
      cases hread : read element with
      | none => rwa [List.filterMap_cons_none hread, List.filterMap_cons_none hread]
      | some value =>
          rw [List.filterMap_cons_some hread, List.filterMap_cons_some hread]
          exact .right _ _ _ _ ih

/-- If nothing is read off the one list, then all that is read comes from the other. -/
theorem filter_map_left (h : Interleaved left right whole) {read : α → Option β}
    (hright : ∀ element ∈ right, read element = none) :
    whole.filterMap read = left.filterMap read := by
  have hread := h.filter_map read
  rw [List.filterMap_eq_nil_iff.2 hright] at hread
  exact hread.eq_left

end Interleaved

end ForumQuery
