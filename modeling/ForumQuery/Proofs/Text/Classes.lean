import ForumQuery.Tag
import ForumQuery.Text.Blank

/-!
# Letters and digits are no blanks

The character classes that a query is cut by have nothing in common: a blank is neither a letter
nor a decimal digit. So the characters of tag names and of identifiers never end a token.
-/

namespace ForumQuery.Text

/-- Of two ranges, one of either table, one ends before the other begins. -/
def apart (left right : List (Nat × Nat)) : Bool :=
  left.all fun range => right.all fun other => range.2 < other.1 || other.2 < range.1

/-- Tables whose ranges lie apart have no code point in common. -/
theorem not_in_ranges_of_apart {left right : List (Nat × Nat)} (hleft : ascending left = true)
    (hright : ascending right = true) (hapart : apart left right = true) {n : Nat}
    (h : inRanges left n = true) : inRanges right n = false := by
  obtain ⟨range, hrange, hlow, hhigh⟩ := (inRanges_iff hleft n).1 h
  refine Bool.eq_false_iff.2 fun hother => ?_
  obtain ⟨other, hmem, hlow', hhigh'⟩ := (inRanges_iff hright n).1 hother
  have hends : range.2 < other.1 ∨ other.2 < range.1 := by
    simpa using List.all_eq_true.1 (List.all_eq_true.1 hapart range hrange) other hmem
  omega

/-- A blank is neither a letter nor a decimal digit. -/
theorem not_letter_of_blank {c : Char} (h : isBlank c = true) :
    isLetter c = false ∧ isDecimalDigit c = false := by
  have hletter : apart blankRanges letterRanges = true := by decide +kernel
  have hdigit : apart blankRanges decimalDigitRanges = true := by decide +kernel
  exact ⟨not_in_ranges_of_apart blank_ranges_ascending letter_ranges_ascending hletter h,
    not_in_ranges_of_apart blank_ranges_ascending decimal_digit_ranges_ascending hdigit h⟩

/-- A visible ASCII character is no blank. -/
theorem not_blank_of_visible {c : Char} (hlow : 0x21 ≤ c.toNat) (hhigh : c.toNat ≤ 0x7E) :
    isBlank c = false := by
  simp only [isBlank, blankRanges, inRanges]
  simp
  omega

/-- An ASCII letter or digit ends no token and opens no phrase. -/
theorem plain_of_alphanum {c : Char} (h : c.isAlphanum = true) : isBlank c = false ∧ c ≠ '"' := by
  have hrange : 0x30 ≤ c.toNat ∧ c.toNat ≤ 0x7A := by
    have hclasses : (decide (c.val ≥ 65 ∧ c.val ≤ 90) ||
        (decide (c.val ≥ 97) && decide (c.val ≤ 122)) ||
        (decide (c.val ≥ 48) && decide (c.val ≤ 57))) = true := h
    simp only [Bool.or_eq_true, Bool.and_eq_true, decide_eq_true_eq, ge_iff_le,
      UInt32.le_iff_toNat_le, UInt32.reduceToNat] at hclasses
    rw [Char.toNat]
    omega
  refine ⟨not_blank_of_visible (by omega) (by omega), ?_⟩
  rintro rfl
  exact absurd hrange.1 (by decide)

end ForumQuery.Text

namespace ForumQuery.Tag

/-- A character of a tag name ends no token, opens no phrase and separates no flag. -/
theorem name_char_plain {c : Char} (h : isNameChar c = true) :
    Text.isBlank c = false ∧ c ≠ '"' ∧ c ≠ ':' := by
  refine ⟨?_, ?_, ?_⟩
  · cases hblank : Text.isBlank c with
    | false => rfl
    | true =>
        have hnot := Text.not_letter_of_blank hblank
        have hunderscore : c = '_' := by simpa [isNameChar, hnot.1, hnot.2] using h
        subst hunderscore
        exact absurd hblank (by decide)
  · rintro rfl
    exact absurd h (by decide +kernel)
  · rintro rfl
    exact absurd h (by decide +kernel)

/-- Nor does any of the characters of a name. -/
theorem plain_of_mem_name {name : Text} (h : isName name = true) :
    ∀ c ∈ name, Text.isBlank c = false ∧ c ≠ '"' ∧ c ≠ ':' := by
  cases name with
  | nil => simp
  | cons first rest =>
      simp only [isName, Bool.and_eq_true, List.all_eq_true] at h
      intro c hc
      rcases List.mem_cons.1 hc with rfl | hrest
      · exact name_char_plain (by simp [isNameChar, h.1.1])
      · exact name_char_plain (h.1.2 c hrest)

end ForumQuery.Tag
