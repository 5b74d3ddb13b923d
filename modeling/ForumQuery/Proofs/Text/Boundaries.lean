import ForumQuery.Text.Basic

/-!
# Slices between characters

An offset into the UTF-8 form of a text is a boundary if it stands between two characters or at an
end. `slice?` is the slice of a text that insists on this: it fails if an offset splits a character,
lies behind the end or comes out of order. `slice?_eq_some_iff` says that its answer is a part of
the text, and that every part of the text is an answer.
-/

namespace ForumQuery.Text

variable {text : Text} {start stop offset : Nat}

/-- The UTF-8 form of the text can be cut in two at the offset. -/
def IsBoundary (text : Text) (offset : Nat) : Prop :=
  String.Pos.Raw.IsValid (String.ofList text) ⟨offset⟩

instance (text : Text) (offset : Nat) : Decidable (IsBoundary text offset) :=
  inferInstanceAs (Decidable (String.Pos.Raw.IsValid _ _))

/-- The characters between two UTF-8 offsets, if both are boundaries and the first is not behind the
second. -/
def slice? (text : Text) (start stop : Nat) : Option Text :=
  if start ≤ stop ∧ IsBoundary text start ∧ IsBoundary text stop then
    some (slice text start stop)
  else
    none

theorem byte_length_eq_utf8_byte_size (text : Text) :
    byteLength text = (String.ofList text).utf8ByteSize := by
  induction text with
  | nil => rfl
  | cons c rest ih =>
      rw [← List.singleton_append, String.ofList_append, String.utf8ByteSize_append, ← ih,
        ← String.singleton_eq_ofList, String.utf8ByteSize_singleton]
      rfl

/-- A boundary is where a front part of the text ends. -/
theorem boundary_iff_append :
    IsBoundary text offset ↔ ∃ front back, text = front ++ back ∧ offset = byteLength front := by
  rw [IsBoundary, String.Pos.Raw.isValid_iff_exists_append]
  constructor
  · rintro ⟨front, back, htext, hoffset⟩
    refine ⟨front.toList, back.toList, ?_, ?_⟩
    · rw [← String.toList_append, ← htext, String.toList_ofList]
    · rw [byte_length_eq_utf8_byte_size, String.ofList_toList]
      exact congrArg String.Pos.Raw.byteIdx hoffset
  · rintro ⟨front, back, rfl, rfl⟩
    refine ⟨String.ofList front, String.ofList back, String.ofList_append, ?_⟩
    rw [byte_length_eq_utf8_byte_size]
    rfl

theorem boundary_of_append (front back : Text) : IsBoundary (front ++ back) (byteLength front) :=
  boundary_iff_append.2 ⟨front, back, rfl, rfl⟩

theorem byte_length_le_append (front back : Text) :
    byteLength front ≤ byteLength (front ++ back) := by
  rw [byteLength_append]
  exact Nat.le_add_right _ _

theorem eq_nil_of_byte_length {text : Text} (h : byteLength text = 0) : text = [] := by
  cases text with
  | nil => rfl
  | cons c rest =>
      have hpos := c.utf8Size_pos
      rw [byteLength] at h
      omega

/-- A slice that does not fail is the part of the text between two offsets, and no part fails. -/
theorem slice?_eq_some_iff {part : Text} :
    slice? text start stop = some part ↔ ∃ front back, text = front ++ part ++ back ∧
      start = byteLength front ∧ stop = byteLength (front ++ part) := by
  constructor
  · intro h
    rw [slice?, Option.ite_none_right_eq_some] at h
    obtain ⟨⟨hle, hstart, hstop⟩, hslice⟩ := h
    obtain ⟨front, back, rfl, rfl⟩ := boundary_iff_append.1 hstart
    obtain ⟨upto, rest, htext, rfl⟩ := boundary_iff_append.1 hstop
    -- Of two fronts of one text, the one with more bytes goes on where the other ends.
    obtain ⟨middle, rfl⟩ : ∃ middle, upto = front ++ middle := by
      rcases List.append_eq_append_iff.1 htext with ⟨middle, hupto, _⟩ | ⟨middle, hfront, _⟩
      · exact ⟨middle, hupto⟩
      · rw [hfront, byteLength_append] at hle
        have hnil : middle = [] := eq_nil_of_byte_length (by omega)
        exact ⟨[], by simp [hfront, hnil]⟩
    rw [htext, slice_append, Option.some.injEq] at hslice
    subst hslice
    exact ⟨front, rest, htext, rfl, rfl⟩
  · rintro ⟨front, back, rfl, rfl, rfl⟩
    have hstart := boundary_of_append front (part ++ back)
    rw [← List.append_assoc] at hstart
    rw [slice?, if_pos ⟨byte_length_le_append front part, hstart, boundary_of_append _ back⟩,
      slice_append]

example : slice? "é-".toList 1 3 = none ∧ slice? "é-".toList 2 3 = some ['-'] := by decide

end ForumQuery.Text
