/-!
# Ranges of code points

A large character class is a table of closed ranges of code points in ascending order, and
membership is a search from the front that stops at the first range above the code point.
The main statement, `inRanges_iff`, says that on an ascending table this early stop loses nothing.
-/

namespace ForumQuery.Text

/-- Membership in an ascending table. A code point below a range is below all later ones. -/
def inRanges : List (Nat × Nat) → Nat → Bool
  | [], _ => false
  | (low, high) :: rest, n => decide (low ≤ n) && (decide (n ≤ high) || inRanges rest n)

/-- Every range is non-empty and ends below the start of the next one. -/
def ascending : List (Nat × Nat) → Bool
  | [] => true
  | [(low, high)] => decide (low ≤ high)
  | (low, high) :: (low', high') :: rest =>
      decide (low ≤ high) && decide (high < low') && ascending ((low', high') :: rest)

/-- The number of code points in the ranges. -/
def codePointCount (ranges : List (Nat × Nat)) : Nat :=
  ranges.foldl (fun total range => total + (range.2 + 1 - range.1)) 0

/-- All ranges of an ascending table start at or above its first start. -/
theorem first_le_of_ascending {low high : Nat} {rest : List (Nat × Nat)}
    (h : ascending ((low, high) :: rest) = true) :
    ∀ range ∈ rest, low ≤ range.1 := by
  induction rest generalizing low high with
  | nil => simp
  | cons next rest ih =>
      obtain ⟨low', high'⟩ := next
      simp only [ascending, Bool.and_eq_true, decide_eq_true_eq] at h
      intro range hrange
      rcases List.mem_cons.1 hrange with rfl | hrest
      · exact Nat.le_trans h.1.1 (Nat.le_of_lt h.1.2)
      · have := ih h.2 range hrest
        exact Nat.le_trans (Nat.le_trans h.1.1 (Nat.le_of_lt h.1.2)) this

/-- What follows the first range of an ascending table is ascending. -/
theorem ascending_tail {range : Nat × Nat} {rest : List (Nat × Nat)}
    (h : ascending (range :: rest) = true) : ascending rest = true := by
  cases rest with
  | nil => rfl
  | cons next rest =>
      simp only [ascending, Bool.and_eq_true] at h
      exact h.2

/-- On an ascending table a code point is found exactly when some range holds it. -/
theorem inRanges_iff {ranges : List (Nat × Nat)} (h : ascending ranges = true) (n : Nat) :
    inRanges ranges n = true ↔ ∃ range ∈ ranges, range.1 ≤ n ∧ n ≤ range.2 := by
  induction ranges with
  | nil => simp [inRanges]
  | cons range rest ih =>
      obtain ⟨low, high⟩ := range
      have hfirst := first_le_of_ascending h
      simp only [inRanges, Bool.and_eq_true, Bool.or_eq_true, decide_eq_true_eq,
        ih (ascending_tail h), List.mem_cons]
      constructor
      · rintro ⟨hlow, hhigh | ⟨range, hrange, hin⟩⟩
        · exact ⟨(low, high), Or.inl rfl, hlow, hhigh⟩
        · exact ⟨range, Or.inr hrange, hin⟩
      · rintro ⟨range, rfl | hrange, hin⟩
        · exact ⟨hin.1, Or.inl hin.2⟩
        · exact ⟨Nat.le_trans (hfirst range hrange) hin.1, Or.inr ⟨range, hrange, hin⟩⟩

end ForumQuery.Text
