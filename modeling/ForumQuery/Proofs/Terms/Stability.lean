import ForumQuery.Proofs.Interleaving
import ForumQuery.Proofs.Extraction.Strip
import ForumQuery.Proofs.Terms.Partition

/-!
# Tags are stable

The tags of some words are names with spaces between them. With its hash in front again, each name
is a search word of its own, which stripping leaves as it is. The main statement, `tags_stable`,
says that these words have the same tags as the words that they come from, and no plain terms.
-/

namespace ForumQuery

namespace Tag

/-- The search word of the tag with the given name. -/
def word (excluded : Bool) (name : Text) : Word :=
  ⟨'#' :: name, excluded⟩

/-- It has the shape of a tag and that name. -/
theorem name_of_word {name : Text} (h : isName name = true) (excluded : Bool) :
    name? (word excluded name).value = some name :=
  name_some_iff.2 ⟨rfl, h⟩

/-- It is its own search word, if a dash stands in front where it is excluded. -/
theorem of_token_word {name : Text} (h : isName name = true) (excluded : Bool) :
    Word.ofToken? (Flag.sign excluded ++ (word excluded name).value) =
      some (word excluded name) :=
  Word.of_token_signed (List.cons_ne_nil _ _) (strip_tag h) excluded

end Tag

namespace Word

/-- The names of the tags of one side are read off the words one by one. -/
theorem tag_names_filter_map (excluded : Bool) (words : List Word) :
    tagNames excluded words = words.filterMap fun word =>
      if word.excluded = excluded then Tag.name? word.value else none := by
  simp [tagNames, List.filterMap_filter]

/-- The names of tags are names. -/
theorem is_name_of_mem_tag_names {excluded : Bool} {words : List Word} {name : Text}
    (h : name ∈ tagNames excluded words) : Tag.isName name = true := by
  obtain ⟨_, _, _, hread⟩ := mem_tag_names.1 h
  exact (Tag.name_some_iff.1 hread).2

/-- The words of some tags on one side give the names of these tags, on that side only. -/
theorem tag_names_of_tags {names : List Text} (h : ∀ name ∈ names, Tag.isName name = true)
    (side excluded : Bool) :
    tagNames excluded (names.map (Tag.word side)) = if side = excluded then names else [] := by
  rw [tag_names_filter_map, List.filterMap_map]
  split
  · next hside =>
      have hread : ∀ name ∈ names, (if side = excluded then
          Tag.name? (Tag.word side name).value else none) = some name :=
        fun name hname => (if_pos hside).trans (Tag.name_of_word (h name hname) side)
      exact (List.filterMap_congr hread).trans List.filterMap_some
  · next hside => exact List.filterMap_eq_nil_iff.2 fun name _ => if_neg hside

end Word

/-- The pieces of one side of some tags, each as the search word of a tag. -/
def Terms.tagWords (tags : Terms) (excluded : Bool) : List Word :=
  (Text.words (tags.side excluded)).map (Tag.word excluded)

namespace Buckets

/-- The pieces of the tags of some words are the names of these tags. -/
theorem words_of_tags (words : List Word) (excluded : Bool) :
    Text.words ((ofWords words).tags.side excluded) = Word.tagNames excluded words := by
  have hone : ∀ name ∈ Word.tagNames excluded words, Text.words name = [name] := by
    intro name hname
    have hread := Tag.name_of_word (Word.is_name_of_mem_tag_names hname) excluded
    have htag : Tag.isTag (Tag.word excluded name).value = true := by rw [Tag.isTag, hread]; rfl
    exact (Tag.words_of_tag htag).2
  rw [of_words_tags_side, Text.words_of_joined_filled, List.flatMap_congr hone,
    List.flatMap_singleton']

/-- So they are the words of tags with these names. -/
theorem tag_words_eq (words : List Word) (excluded : Bool) :
    (ofWords words).tags.tagWords excluded =
      (Word.tagNames excluded words).map (Tag.word excluded) := by
  rw [Terms.tagWords, words_of_tags]

/-- In whatever order the words for both sides are mixed, they give the same names as before. -/
theorem tag_names_again {words again : List Word}
    (h : Interleaved ((ofWords words).tags.tagWords false) ((ofWords words).tags.tagWords true)
      again) (excluded : Bool) :
    Word.tagNames excluded again = Word.tagNames excluded words := by
  have hnames : ∀ side, ∀ name ∈ Word.tagNames side words, Tag.isName name = true :=
    fun _ _ hname => Word.is_name_of_mem_tag_names hname
  have hread := h.filter_map fun word =>
    if word.excluded = excluded then Tag.name? word.value else none
  simp only [← Word.tag_names_filter_map, tag_words_eq, Word.tag_names_of_tags (hnames _)] at hread
  cases excluded with
  | false => exact hread.eq_left
  | true => exact hread.symm.eq_left

/-- These words are tags of names. -/
theorem name_of_mem_tag_words {words : List Word} {excluded : Bool} {word : Word}
    (h : word ∈ (ofWords words).tags.tagWords excluded) :
    ∃ name, Tag.isName name = true ∧ word = Tag.word excluded name := by
  rw [tag_words_eq] at h
  obtain ⟨name, hname, rfl⟩ := List.mem_map.1 h
  exact ⟨name, Word.is_name_of_mem_tag_names hname, rfl⟩

/-- So there are no plain terms among them. -/
theorem plain_texts_again {words again : List Word}
    (h : Interleaved ((ofWords words).tags.tagWords false) ((ofWords words).tags.tagWords true)
      again) (excluded : Bool) : Word.plainTexts excluded again = [] := by
  rw [List.eq_nil_iff_forall_not_mem]
  intro text htext
  obtain ⟨word, hword, _, hnone, _⟩ := Word.mem_plain_texts.1 htext
  have hside : ∃ side, word ∈ (ofWords words).tags.tagWords side :=
    (h.mem_iff.1 hword).elim (fun hleft => ⟨false, hleft⟩) fun hright => ⟨true, hright⟩
  obtain ⟨side, hside⟩ := hside
  obtain ⟨name, hvalid, rfl⟩ := name_of_mem_tag_words hside
  rw [Tag.name_of_word hvalid] at hnone
  cases hnone

end Buckets

/-- Cut the tags of some words at blanks and put the hash back in front of each piece. In whatever
order the words of both sides are mixed, each side in its own order, they have the same tags as
before and no plain terms. Stripping leaves each of them as it is, with a dash in front of those
that are excluded. -/
theorem tags_stable (words : List Word) :
    let tags := (Buckets.ofWords words).tags
    (∀ again, Interleaved (tags.tagWords false) (tags.tagWords true) again →
      Buckets.ofWords again = { plain := {}, tags := tags }) ∧
    ∀ excluded, ∀ word ∈ tags.tagWords excluded,
      Word.ofToken? (Flag.sign excluded ++ word.value) = some word := by
  intro tags
  refine ⟨fun again h => ?_, fun excluded word hword => ?_⟩
  · have htags : tags =
        Terms.ofTexts (Word.tagNames false words) (Word.tagNames true words) := by
      show (Buckets.ofWords words).tags = _
      rw [Buckets.of_words_eq]
    rw [Buckets.of_words_eq, Buckets.tag_names_again h, Buckets.tag_names_again h, ← htags,
      Buckets.plain_texts_again h, Buckets.plain_texts_again h]
    rfl
  · obtain ⟨name, hvalid, rfl⟩ := Buckets.name_of_mem_tag_words hword
    exact Tag.of_token_word hvalid excluded

/-- An excluded tag goes between two included ones, and a plain word and a tag that is too short
leave no trace. -/
theorem tags_stable_mixed :
    let words : List Word :=
      [⟨"#b".toList, false⟩, ⟨"#Ünï".toList, false⟩, ⟨"a b".toList, true⟩,
        ⟨"#c_3".toList, true⟩, ⟨"#go".toList, false⟩]
    let again : List Word :=
      [⟨"#Ünï".toList, false⟩, ⟨"#c_3".toList, true⟩, ⟨"#go".toList, false⟩]
    let tags : Terms := ⟨"Ünï go".toList, "c_3".toList⟩
    (Buckets.ofWords words).tags = tags ∧
      Interleaved (tags.tagWords false) (tags.tagWords true) again ∧
      Buckets.ofWords again = { plain := {}, tags := tags } ∧
      Word.ofToken? "-#c_3".toList = some ⟨"#c_3".toList, true⟩ := by
  intro words again tags
  have htags : (Buckets.ofWords words).tags = tags := by decide +kernel
  have hmixed : Interleaved (tags.tagWords false) (tags.tagWords true) again :=
    .left _ _ _ _ (.right _ _ _ _ (.left _ _ _ _ .nil))
  have hword : (⟨"#c_3".toList, true⟩ : Word) ∈ tags.tagWords true := by decide +kernel
  obtain ⟨hagain, htoken⟩ := tags_stable words
  rw [htags] at hagain htoken
  exact ⟨htags, hmixed, hagain again hmixed, htoken true _ hword⟩

end ForumQuery
