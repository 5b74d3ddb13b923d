/-!
# Text

Text is handled character by character, as a list of characters. The operations here are the
ones that the whole library shares: cutting a text from its end, taking pieces at UTF-8 offsets
and comparing without regard to ASCII case.

The main statements are `dropBytes_append` and `takeBytes_append`: at the offset where a part of
the text ends, cutting gives back exactly the parts. `joined_cons` says how a join is built up.
-/

namespace ForumQuery

/-- A text is the list of its characters. -/
abbrev Text := List Char

namespace Text

/-- The text without the longest run at its end whose characters all satisfy the test. -/
def dropEndWhile (test : Char → Bool) (text : Text) : Text :=
  (text.reverse.dropWhile test).reverse

/-- The pieces with one space between neighbours. -/
def joined (pieces : List Text) : Text :=
  List.intercalate [' '] pieces

/-- Equality up to the case of the letters A to Z. No other letter has a second spelling. -/
def sameIgnoringCase (left right : Text) : Bool :=
  decide (left.map Char.toLower = right.map Char.toLower)

/-- The length of the text in UTF-8. -/
def byteLength : Text → Nat
  | [] => 0
  | c :: rest => c.utf8Size + byteLength rest

/-- The text from a UTF-8 offset on. An offset inside a character skips that character. -/
def dropBytes : Nat → Text → Text
  | _, [] => []
  | 0, text => text
  | n + 1, c :: rest => dropBytes (n + 1 - c.utf8Size) rest

/-- The text before a UTF-8 offset. An offset inside a character keeps that character. -/
def takeBytes : Nat → Text → Text
  | _, [] => []
  | 0, _ => []
  | n + 1, c :: rest => c :: takeBytes (n + 1 - c.utf8Size) rest

/-- The characters between two UTF-8 offsets. -/
def slice (text : Text) (start stop : Nat) : Text :=
  takeBytes (stop - start) (dropBytes start text)

theorem joined_cons_cons (first second : Text) (rest : List Text) :
    joined (first :: second :: rest) = first ++ ' ' :: joined (second :: rest) := by
  simp [joined]

/-- Each piece after the first stands behind a space. -/
theorem joined_cons (first : Text) (rest : List Text) :
    joined (first :: rest) = first ++ rest.flatMap fun piece => ' ' :: piece := by
  induction rest generalizing first with
  | nil => simp [joined]
  | cons second rest ih => rw [joined_cons_cons, ih, List.flatMap_cons, List.cons_append]

/-- The joins of two lists, neither of them empty, are joined by a space. -/
theorem joined_append {front back : List Text} (hfront : front ≠ []) (hback : back ≠ []) :
    joined (front ++ back) = joined front ++ ' ' :: joined back := by
  obtain ⟨first, rest, rfl⟩ := List.exists_cons_of_ne_nil hfront
  obtain ⟨second, later, rfl⟩ := List.exists_cons_of_ne_nil hback
  simp [joined_cons]

theorem byteLength_append (front back : Text) :
    byteLength (front ++ back) = byteLength front + byteLength back := by
  induction front with
  | nil => simp [byteLength]
  | cons c front ih => simp [byteLength, ih, Nat.add_assoc]

theorem dropBytes_zero (text : Text) : dropBytes 0 text = text := by
  cases text <;> rfl

/-- Skipping as many bytes as the front takes leaves the back. -/
theorem dropBytes_append (front back : Text) :
    dropBytes (byteLength front) (front ++ back) = back := by
  induction front with
  | nil => exact dropBytes_zero back
  | cons c front ih =>
      have hpos := c.utf8Size_pos
      obtain ⟨n, hn⟩ : ∃ n, c.utf8Size + byteLength front = n + 1 :=
        ⟨c.utf8Size + byteLength front - 1, by omega⟩
      rw [byteLength, hn, List.cons_append, dropBytes, ← hn, Nat.add_sub_cancel_left, ih]

/-- Keeping as many bytes as the front takes gives the front. -/
theorem takeBytes_append (front back : Text) :
    takeBytes (byteLength front) (front ++ back) = front := by
  induction front with
  | nil => cases back <;> rfl
  | cons c front ih =>
      have hpos := c.utf8Size_pos
      obtain ⟨n, hn⟩ : ∃ n, c.utf8Size + byteLength front = n + 1 :=
        ⟨c.utf8Size + byteLength front - 1, by omega⟩
      rw [byteLength, hn, List.cons_append, takeBytes, ← hn, Nat.add_sub_cancel_left, ih]

/-- Between the offsets where a middle part begins and ends stands that part. -/
theorem slice_append (front middle back : Text) :
    slice (front ++ middle ++ back) (byteLength front) (byteLength (front ++ middle)) = middle := by
  rw [slice, List.append_assoc, dropBytes_append, byteLength_append, Nat.add_sub_cancel_left,
    takeBytes_append]

end Text

end ForumQuery
