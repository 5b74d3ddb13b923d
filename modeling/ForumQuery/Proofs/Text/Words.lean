import ForumQuery.Text.Blank
import Mathlib.Data.List.Basic

/-!
# Words at a blank

A blank ends a word, so the words of a text that is cut at a blank are those of its two parts
(`words_append_blank_cons`). As every text is a run without blanks, or is cut at its first blank,
all else about words follows by `blank_induction`: `mem_words` says what words are made of, and
`words_of_joined` that a join has the words of its pieces, so that joined words come back.
-/

namespace ForumQuery.Text

/-- What follows a blank has its own words. -/
theorem leading_word_append_blank {c : Char} (hc : isBlank c = true) (front back : Text) :
    leadingWord (front ++ c :: back) =
      ((leadingWord front).1, (leadingWord front).2 ++ words back) := by
  induction front with
  | nil => simp [leadingWord, words, hc]
  | cons d front ih =>
      simp only [List.cons_append, leadingWord, ih]
      split
      · split <;> simp
      · rfl

/-- The words of a text that is cut at a blank are those of its two parts. -/
theorem words_append_blank_cons {c : Char} (hc : isBlank c = true) (front back : Text) :
    words (front ++ c :: back) = words front ++ words back := by
  rw [words, leading_word_append_blank hc]
  simp only [words]
  split <;> simp

/-- A text has no blank, or is cut at its first one. -/
theorem first_blank (text : Text) :
    (∀ c ∈ text, isBlank c = false) ∨
      ∃ front c back, text = front ++ c :: back ∧ (∀ d ∈ front, isBlank d = false) ∧
        isBlank c = true := by
  cases h : text.find? isBlank with
  | none =>
      rw [List.find?_eq_none] at h
      exact Or.inl fun c hc => Bool.eq_false_iff.2 (h c hc)
  | some c =>
      rw [List.find?_eq_some_iff_append] at h
      obtain ⟨hc, front, back, rfl, hfront⟩ := h
      exact Or.inr ⟨front, c, back, rfl, by simpa using hfront, hc⟩

/-- What holds of runs without blanks, and is kept when a run and a blank are put in front, holds
of every text. -/
theorem blank_induction {motive : Text → Prop}
    (run : ∀ text, (∀ c ∈ text, isBlank c = false) → motive text)
    (cut : ∀ front c back, (∀ d ∈ front, isBlank d = false) → isBlank c = true → motive back →
      motive (front ++ c :: back)) (text : Text) : motive text := by
  rcases first_blank text with hrun | ⟨front, c, back, rfl, hfront, hc⟩
  · exact run text hrun
  · exact cut front c back hfront hc (blank_induction run cut back)
termination_by text.length
decreasing_by
  subst_vars
  simp
  omega

/-- A run without blanks is a word, or is empty. -/
theorem words_run {run : Text} (hrun : ∀ c ∈ run, isBlank c = false) :
    words run = if run = [] then [] else [run] := by
  split
  · next hempty => rw [hempty, words_nil]
  · next hne => exact words_of_no_blank hrun hne

/-- Words are not empty, have no blanks, and have all their characters from the text. -/
theorem mem_words {text word : Text} (h : word ∈ words text) :
    word ≠ [] ∧ ∀ c ∈ word, isBlank c = false ∧ c ∈ text := by
  induction text using blank_induction with
  | run text hrun =>
      rw [words_run hrun] at h
      split at h
      · simp at h
      · next hne =>
          obtain rfl := List.mem_singleton.1 h
          exact ⟨hne, fun c hc => ⟨hrun c hc, hc⟩⟩
  | cut front c back hfront hc ih =>
      rw [words_append_blank_cons hc, words_run hfront, List.mem_append] at h
      rcases h with h | h
      · split at h
        · simp at h
        · next hne =>
            obtain rfl := List.mem_singleton.1 h
            exact ⟨hne, fun d hd => ⟨hfront d hd, List.mem_append_left _ hd⟩⟩
      · obtain ⟨hne, hchars⟩ := ih h
        exact ⟨hne, fun d hd => ⟨(hchars d hd).1, by simp [(hchars d hd).2]⟩⟩

/-- A run in front of a text goes to the first word. -/
theorem words_run_append {run : Text} (hne : run ≠ []) (hrun : ∀ c ∈ run, isBlank c = false)
    (text : Text) :
    ∃ tail later, words (run ++ text) = (run ++ tail) :: later ∧
      (∀ c ∈ tail, isBlank c = false ∧ c ∈ text) ∧
      ∀ word ∈ later, word ≠ [] ∧ ∀ c ∈ word, isBlank c = false ∧ c ∈ text := by
  have happend : ∀ {tail : Text}, (∀ c ∈ tail, isBlank c = false) →
      ∀ c ∈ run ++ tail, isBlank c = false := by
    intro tail htail c hc
    exact (List.mem_append.1 hc).elim (hrun c) (htail c)
  have hfilled : ∀ tail : Text, run ++ tail ≠ [] := by simp [hne]
  rcases first_blank text with htext | ⟨front, c, back, rfl, hfront, hc⟩
  · refine ⟨text, [], words_of_no_blank (happend htext) (hfilled text), ?_, by simp⟩
    exact fun d hd => ⟨htext d hd, hd⟩
  · refine ⟨front, words back, ?_, fun d hd => ⟨hfront d hd, by simp [hd]⟩, fun word hword => ?_⟩
    · rw [← List.append_assoc, words_append_blank (happend hfront) (hfilled front) hc]
    · obtain ⟨hwordne, hchars⟩ := mem_words hword
      exact ⟨hwordne, fun d hd => ⟨(hchars d hd).1, by simp [(hchars d hd).2]⟩⟩

/-- The words of a join are those of its pieces. -/
theorem words_of_joined (pieces : List Text) : words (joined pieces) = pieces.flatMap words := by
  induction pieces with
  | nil => rfl
  | cons first rest ih =>
      cases rest with
      | nil => simp [joined]
      | cons second rest =>
          rw [joined_cons_cons, words_append_blank_cons (by decide), ih]
          rfl

/-- Words that are joined by spaces come back. -/
theorem words_joined {pieces : List Text}
    (hpieces : ∀ piece ∈ pieces, piece ≠ [] ∧ ∀ c ∈ piece, isBlank c = false) :
    words (joined pieces) = pieces := by
  have hwords : ∀ piece ∈ pieces, words piece = [piece] := fun piece hpiece =>
    words_of_no_blank (hpieces piece hpiece).2 (hpieces piece hpiece).1
  rw [words_of_joined, List.flatMap_congr hwords, List.flatMap_singleton']

end ForumQuery.Text
