import ForumQuery.Proofs.Terms.Words
import ForumQuery.Proofs.Text.Classes
import ForumQuery.Proofs.Text.Words

/-!
# Search words are parted into the buckets

A search word has the shape of a tag or not, and is excluded or not, so it belongs to one of four
classes, and there is one side of a bucket for each class. The main statement, `words_parted`, says
that each side has just the terms of its class, and that no piece of a word is lost, doubled or run
into the next one on the way there.
-/

namespace ForumQuery

/-- The join of all texts that are not empty has the words of all texts. -/
theorem Text.words_of_joined_filled (texts : List Text) :
    words (joined (filled texts)) = texts.flatMap words := by
  rw [words_of_joined]
  induction texts with
  | nil => rfl
  | cons text texts ih =>
      by_cases htext : text = []
      · simpa [filled, htext, words_nil] using ih
      · simpa [filled, htext] using ih

/-- A tag is one piece, and so is what is left of it without the hash. -/
theorem Tag.words_of_tag {text : Text} (h : isTag text = true) :
    Text.words text = [text] ∧ Text.words text.tail = [text.tail] := by
  obtain ⟨name, hname⟩ := Option.isSome_iff_exists.1 h
  obtain ⟨rfl, hvalid⟩ := name_some_iff.1 hname
  have hplain : ∀ c ∈ name, Text.isBlank c = false := fun c hc => (plain_of_mem_name hvalid c hc).1
  have htag : ∀ c ∈ '#' :: name, Text.isBlank c = false := by
    intro c hc
    rcases List.mem_cons.1 hc with rfl | hc
    · decide
    · exact hplain c hc
  exact ⟨Text.words_of_no_blank htag (List.cons_ne_nil _ _),
    Text.words_of_no_blank hplain (name_ne_nil hname)⟩

namespace Word

/-- The terms of the words in one class, those with or without the shape of a tag that are or are
not excluded. Tags go without their hash, and other words as they are. -/
def classTerms (tag excluded : Bool) (words : List Word) : List Text :=
  (words.filter fun word => Tag.isTag word.value = tag ∧ word.excluded = excluded).map fun word =>
    if tag then word.value.tail else word.value

theorem class_terms_plain (excluded : Bool) (words : List Word) :
    classTerms false excluded words = plainTexts excluded words := by
  simp [classTerms, plainTexts, Tag.isTag]

theorem class_terms_tags (excluded : Bool) (words : List Word) :
    classTerms true excluded words = tagNames excluded words := by
  induction words with
  | nil => rfl
  | cons word words ih =>
      obtain ⟨value, side⟩ := word
      cases hname : Tag.name? value with
      | none => by_cases hside : side = excluded <;> simp_all [classTerms, tagNames, Tag.isTag]
      | some name =>
          obtain ⟨rfl, _⟩ := Tag.name_some_iff.1 hname
          by_cases hside : side = excluded <;> simp_all [classTerms, tagNames, Tag.isTag]

/-- The terms of the four classes have as many pieces together as the words. -/
theorem count_classes (words : List Word) :
    let count (texts : List Text) : Nat := (texts.flatMap Text.words).length
    count (classTerms false false words) + count (classTerms false true words) +
        count (classTerms true false words) + count (classTerms true true words) =
      count (words.map value) := by
  intro count
  induction words with
  | nil => rfl
  | cons word words ih =>
      obtain ⟨value, excluded⟩ := word
      -- The word adds its pieces to the count of its own class and to no other.
      cases htag : Tag.isTag value with
      | false =>
          cases excluded <;> simp [count, classTerms, htag] at ih ⊢ <;> omega
      | true =>
          obtain ⟨hwhole, htail⟩ := Tag.words_of_tag htag
          cases excluded <;> simp [count, classTerms, htag, hwhole, htail] at ih ⊢ <;> omega

end Word

namespace Buckets

/-- The side of a bucket that there is for one class of words. -/
def classSide (buckets : Buckets) (tag excluded : Bool) : Text :=
  (if tag then buckets.tags else buckets.plain).side excluded

/-- It is the join of the terms of that class. -/
theorem class_side_of_words (words : List Word) (tag excluded : Bool) :
    (ofWords words).classSide tag excluded =
      Text.joined (Text.filled (Word.classTerms tag excluded words)) := by
  cases tag with
  | false => rw [Word.class_terms_plain, ← of_words_plain_side]; rfl
  | true => rw [Word.class_terms_tags, ← of_words_tags_side]; rfl

end Buckets

/-- For each class of words, one side of the buckets is the join of the terms of that class that are
not empty, and splits at blanks into the pieces of these terms. All sides together have as many
pieces as the words. There are tags exactly if some word has the shape of one, and plain terms
exactly if some other word is not empty. -/
theorem words_parted (words : List Word) :
    let buckets := Buckets.ofWords words
    (∀ tag excluded,
      buckets.classSide tag excluded =
        Text.joined (Text.filled (Word.classTerms tag excluded words)) ∧
      Text.words (buckets.classSide tag excluded) =
        (Word.classTerms tag excluded words).flatMap Text.words) ∧
    (Text.words buckets.plain.included).length + (Text.words buckets.plain.excluded).length +
        (Text.words buckets.tags.included).length + (Text.words buckets.tags.excluded).length =
      (words.flatMap fun word => Text.words word.value).length ∧
    (buckets.tags.isPresent = true ↔ ∃ word ∈ words, Tag.isTag word.value = true) ∧
    (buckets.plain.isPresent = true ↔
      ∃ word ∈ words, Tag.isTag word.value = false ∧ word.value ≠ []) := by
  intro buckets
  have hsplit : ∀ tag excluded, Text.words (buckets.classSide tag excluded) =
      (Word.classTerms tag excluded words).flatMap Text.words := by
    intro tag excluded
    rw [Buckets.class_side_of_words, Text.words_of_joined_filled]
  refine ⟨fun tag excluded => ⟨Buckets.class_side_of_words words tag excluded,
    hsplit tag excluded⟩, ?_, ?_, ?_⟩
  · have hcount := Word.count_classes words
    simp only [← hsplit, List.flatMap_map] at hcount
    exact hcount
  · rw [Terms.is_present_iff, Buckets.tags_ne_empty]
  · rw [Terms.is_present_iff, Buckets.plain_ne_empty]

end ForumQuery
