import ForumQuery.Proofs.Terms.Joined
import Mathlib.Data.List.Induction

/-!
# The terms of words

Words are put into buckets one after the other. `of_words_eq` says what the buckets of a list of
words hold: on each side of the plain terms the words without the shape of a tag, and on each side
of the tags the names of the others, all in order.
-/

namespace ForumQuery

namespace Word

/-- The words of one side without the shape of a tag, in order. -/
def plainTexts (excluded : Bool) (words : List Word) : List Text :=
  (words.filter fun word => Tag.name? word.value = none ∧ word.excluded = excluded).map Word.value

/-- The names of the tags of one side, in order. -/
def tagNames (excluded : Bool) (words : List Word) : List Text :=
  (words.filter fun word => word.excluded = excluded).filterMap fun word => Tag.name? word.value

theorem mem_plain_texts {excluded : Bool} {words : List Word} {text : Text} :
    text ∈ plainTexts excluded words ↔
      ∃ word ∈ words, word.excluded = excluded ∧ Tag.name? word.value = none ∧
        word.value = text := by
  simp only [plainTexts, List.mem_map, List.mem_filter, decide_eq_true_eq]
  constructor
  · rintro ⟨word, ⟨hword, hname, hside⟩, htext⟩
    exact ⟨word, hword, hside, hname, htext⟩
  · rintro ⟨word, hword, hside, hname, htext⟩
    exact ⟨word, ⟨hword, hname, hside⟩, htext⟩

theorem mem_tag_names {excluded : Bool} {words : List Word} {name : Text} :
    name ∈ tagNames excluded words ↔
      ∃ word ∈ words, word.excluded = excluded ∧ Tag.name? word.value = some name := by
  simp [tagNames, and_assoc]

end Word

/-- A text has a name exactly if it is a hash and that name. -/
theorem Tag.name_some_iff {text name : Text} :
    Tag.name? text = some name ↔ text = '#' :: name ∧ Tag.isName name = true := by
  constructor
  · intro h
    unfold Tag.name? at h
    split at h
    · split at h
      · next hvalid =>
          cases h
          exact ⟨rfl, hvalid⟩
      · cases h
    · cases h
  · intro h
    rw [h.1, Tag.name?, if_pos h.2]

/-- The name of a tag has at least one character. -/
theorem Tag.name_ne_nil {text name : Text} (h : Tag.name? text = some name) : name ≠ [] := by
  intro hempty
  have hvalid := (Tag.name_some_iff.1 h).2
  rw [hempty] at hvalid
  cases hvalid

namespace Buckets

/-- The buckets of a list of words. -/
theorem of_words_eq (words : List Word) :
    ofWords words =
      { plain := Terms.ofTexts (Word.plainTexts false words) (Word.plainTexts true words)
        tags := Terms.ofTexts (Word.tagNames false words) (Word.tagNames true words) } := by
  induction words using List.reverseRecOn with
  | nil => rfl
  | append_singleton words word ih =>
      have hstep : ofWords (words ++ [word]) = (ofWords words).add word := by
        simp [ofWords, List.foldl_append]
      obtain ⟨value, excluded⟩ := word
      rw [hstep, ih]
      cases hname : Tag.name? value <;> cases excluded <;>
        simp [add, hname, Terms.of_texts_add, Word.plainTexts, Word.tagNames, List.filter_append]

/-- One side of the plain terms. -/
theorem of_words_plain_side (words : List Word) (excluded : Bool) :
    (ofWords words).plain.side excluded =
      Text.joined (Text.filled (Word.plainTexts excluded words)) := by
  rw [of_words_eq]
  cases excluded <;> rfl

/-- One side of the tags. -/
theorem of_words_tags_side (words : List Word) (excluded : Bool) :
    (ofWords words).tags.side excluded =
      Text.joined (Text.filled (Word.tagNames excluded words)) := by
  rw [of_words_eq]
  cases excluded <;> rfl

/-- The buckets of two lists of words, bucket by bucket. -/
theorem of_words_append (front back : List Word) :
    ofWords (front ++ back) =
      { plain := (ofWords front).plain.append (ofWords back).plain
        tags := (ofWords front).tags.append (ofWords back).tags } := by
  simp only [of_words_eq, ← Terms.of_texts_append, Word.plainTexts, Word.tagNames,
    List.filter_append, List.map_append, List.filterMap_append]

/-- A word without the shape of a tag goes as it is behind the plain terms in front of it. -/
theorem of_words_plain {word : Word} (hplain : Tag.name? word.value = none)
    (front back : List Word) :
    ofWords (front ++ word :: back) =
      { plain := ((ofWords front).plain.add word.value word.excluded).append (ofWords back).plain
        tags := (ofWords front).tags.append (ofWords back).tags } := by
  have hword : ofWords (front ++ [word]) = { ofWords front with
      plain := (ofWords front).plain.add word.value word.excluded } := by
    show (front ++ [word]).foldl add {} = _
    rw [List.foldl_append, List.foldl_cons, List.foldl_nil, ← ofWords, add, hplain]
  rw [List.append_cons, of_words_append, hword]

/-- There are tags exactly if some word has the shape of a tag. -/
theorem tags_ne_empty {words : List Word} :
    (ofWords words).tags ≠ {} ↔ ∃ word ∈ words, Tag.isTag word.value = true := by
  rw [of_words_eq, Terms.of_sides_ne_empty fun excluded => Word.tagNames excluded words]
  constructor
  · rintro ⟨excluded, name, hname, _⟩
    obtain ⟨word, hword, _, hread⟩ := Word.mem_tag_names.1 hname
    exact ⟨word, hword, by simp [Tag.isTag, hread]⟩
  · rintro ⟨word, hword, htag⟩
    obtain ⟨name, hread⟩ := Option.isSome_iff_exists.1 htag
    exact ⟨word.excluded, name, Word.mem_tag_names.2 ⟨word, hword, rfl, hread⟩,
      Tag.name_ne_nil hread⟩

/-- There are plain terms exactly if some word that has not the shape of a tag is not empty. -/
theorem plain_ne_empty {words : List Word} :
    (ofWords words).plain ≠ {} ↔
      ∃ word ∈ words, Tag.isTag word.value = false ∧ word.value ≠ [] := by
  rw [of_words_eq, Terms.of_sides_ne_empty fun excluded => Word.plainTexts excluded words]
  constructor
  · rintro ⟨excluded, text, htext, hne⟩
    obtain ⟨word, hword, _, hread, rfl⟩ := Word.mem_plain_texts.1 htext
    exact ⟨word, hword, by simp [Tag.isTag, hread], hne⟩
  · rintro ⟨word, hword, htag, hne⟩
    have hread : Tag.name? word.value = none := by simpa [Tag.isTag] using htag
    exact ⟨word.excluded, word.value, Word.mem_plain_texts.2 ⟨word, hword, rfl, hread, rfl⟩, hne⟩

end Buckets

end ForumQuery
