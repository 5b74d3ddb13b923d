import ForumQuery.Buckets

/-!
# Joined terms

A bucket is filled one term after the other, a space before each but the first. `add_term_joined`
says that a bucket filled so is at every moment the join of its terms. `Terms.ofTexts` gives both
sides of some terms at once; `Terms.of_texts_add` says what one more term does to it, and
`Terms.of_texts_append` that two lists of terms may be joined one by one.
-/

namespace ForumQuery

namespace Text

/-- The texts that are not empty. -/
def filled (texts : List Text) : List Text :=
  texts.filter (· ≠ [])

/-- A join of pieces that are not empty is empty only if there are none. -/
theorem joined_eq_nil {pieces : List Text} (hne : ∀ piece ∈ pieces, piece ≠ []) :
    joined pieces = [] ↔ pieces = [] := by
  cases pieces with
  | nil => simp [joined]
  | cons first rest => simp [joined_cons, hne first List.mem_cons_self]

theorem ne_nil_of_mem_filled {texts : List Text} : ∀ text ∈ filled texts, text ≠ [] := by
  simp [filled]

/-- The bucket of some terms with one more term is the bucket of the terms and that one. -/
theorem add_term_joined (terms : List Text) (term : Text) :
    addTerm (joined (filled terms)) term = joined (filled (terms ++ [term])) := by
  unfold addTerm
  split
  · next hterm => simp [filled, hterm]
  · next hterm =>
      have hfilled : filled (terms ++ [term]) = filled terms ++ [term] := by
        simp [filled, hterm]
      rw [hfilled]
      split
      · next hempty =>
          rw [(joined_eq_nil ne_nil_of_mem_filled).1 hempty]
          simp [joined]
      · next hbucket =>
          have hsome : filled terms ≠ [] :=
            fun h => hbucket ((joined_eq_nil ne_nil_of_mem_filled).2 h)
          rw [joined_append hsome (List.cons_ne_nil _ _)]
          simp [joined]

/-- Of a join of texts, a test that spaces fail keeps what it keeps of each text. -/
theorem filter_joined {test : Char → Bool} (hspace : test ' ' = false) (texts : List Text) :
    (joined (filled texts)).filter test = texts.flatMap fun text => text.filter test := by
  have hjoined : ∀ pieces : List Text,
      (joined pieces).filter test = pieces.flatMap fun piece => piece.filter test := by
    intro pieces
    cases pieces with
    | nil => rfl
    | cons first rest =>
        rw [joined_cons, List.filter_append, List.filter_flatMap, List.flatMap_cons]
        simp [hspace]
  rw [hjoined]
  induction texts with
  | nil => rfl
  | cons text texts ih =>
      rw [List.flatMap_cons, ← ih]
      by_cases htext : text = [] <;> simp [filled, htext]

/-- Two texts side by side, with a space between them if both are there. -/
theorem joined_filled_pair (front back : Text) :
    joined (filled [front, back]) =
      if front = [] then back else if back = [] then front else front ++ ' ' :: back := by
  by_cases hfront : front = [] <;> by_cases hback : back = [] <;>
    simp [filled, joined, hfront, hback]

/-- The join of two lists is the join of their joins. -/
theorem joined_filled_append (front back : List Text) :
    joined (filled (front ++ back)) =
      joined (filled [joined (filled front), joined (filled back)]) := by
  have happend : filled (front ++ back) = filled front ++ filled back := List.filter_append ..
  rw [happend, joined_filled_pair]
  simp only [joined_eq_nil ne_nil_of_mem_filled]
  split
  · next hfront => rw [hfront, List.nil_append]
  · next hfront =>
      split
      · next hback => rw [hback, List.append_nil]
      · next hback => exact joined_append hfront hback

end Text

namespace Terms

/-- The terms with the given texts on each side. -/
def ofTexts (included excluded : List Text) : Terms where
  included := Text.joined (Text.filled included)
  excluded := Text.joined (Text.filled excluded)

/-- The terms on one side. -/
def side (terms : Terms) (excluded : Bool) : Text :=
  if excluded then terms.excluded else terms.included

/-- One more term goes to the end of its side. -/
theorem of_texts_add (included excluded : List Text) (term : Text) (side : Bool) :
    (ofTexts included excluded).add term side =
      if side then ofTexts included (excluded ++ [term])
      else ofTexts (included ++ [term]) excluded := by
  cases side <;> simp [ofTexts, add, Text.add_term_joined]

/-- The terms of two parts side by side. -/
def append (front back : Terms) : Terms :=
  ofTexts [front.included, back.included] [front.excluded, back.excluded]

/-- The terms of all texts are those of the texts in front, and of those behind them. -/
theorem of_texts_append (front back frontExcluded backExcluded : List Text) :
    ofTexts (front ++ back) (frontExcluded ++ backExcluded) =
      (ofTexts front frontExcluded).append (ofTexts back backExcluded) := by
  simp only [ofTexts, append, Text.joined_filled_append front,
    Text.joined_filled_append frontExcluded]

/-- There are terms exactly if some text on some side is not empty. -/
theorem of_texts_ne_empty {included excluded : List Text} :
    ofTexts included excluded ≠ {} ↔ ∃ text ∈ included ++ excluded, text ≠ [] := by
  have hside : ∀ texts, Text.joined (Text.filled texts) = [] ↔ ∀ text ∈ texts, text = [] := by
    intro texts
    rw [Text.joined_eq_nil Text.ne_nil_of_mem_filled]
    simp [Text.filled]
  rw [ofTexts, ne_eq, Terms.mk.injEq, hside, hside, ← List.forall_mem_append]
  simp

/-- So there are terms exactly if there is such a text for one of the sides. -/
theorem of_sides_ne_empty (texts : Bool → List Text) :
    ofTexts (texts false) (texts true) ≠ {} ↔ ∃ excluded, ∃ text ∈ texts excluded, text ≠ [] := by
  rw [of_texts_ne_empty, Bool.exists_bool]
  simp only [List.mem_append, or_and_right, exists_or]

/-- Terms are present exactly if there is text on some side. -/
theorem is_present_iff (terms : Terms) : terms.isPresent = true ↔ terms ≠ {} := by
  obtain ⟨included, excluded⟩ := terms
  cases included <;> cases excluded <;> simp [isPresent]

end Terms

end ForumQuery
