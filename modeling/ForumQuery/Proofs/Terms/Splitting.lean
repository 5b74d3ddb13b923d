import ForumQuery.Proofs.Extraction.Blocks
import ForumQuery.Proofs.Extraction.Strip
import ForumQuery.Proofs.Terms.Words
import ForumQuery.Proofs.Token.Shape

/-!
# Buckets can be split again

The buckets of a query are plain texts, but nothing of its words is lost in them. Stripping keeps
the shape of a token, and so do leaving out flags and taking only the words of one kind. So the
values of such words are well shaped, and come back when their bucket is cut into tokens.
`buckets_split` says so of the plain terms, and of the tags that their names come back when their
bucket is split at blanks.
-/

namespace ForumQuery

namespace Token

variable {token : Text} {word : Word}

/-- What is left of a bare token is bare. -/
theorem IsBare.value (h : IsBare token) (hword : Word.ofToken? token = some word) :
    IsBare word.value := by
  obtain ⟨hstrip, hne⟩ := Word.strip_of_token hword
  refine ⟨hne, fun c hc => h.2 c ?_⟩
  rw [← hstrip] at hc
  exact (Word.strip_sublist token).mem hc

/-- What is left of a phrase is a phrase. -/
theorem IsPhrase.value (h : IsPhrase token) (hword : Word.ofToken? token = some word) :
    IsPhrase word.value := by
  obtain ⟨excluded, text, hfree, rfl⟩ := h
  rw [Word.of_token_phrase] at hword
  cases hword
  exact ⟨false, text, hfree, rfl⟩

/-- What is left of an opened phrase is one. -/
theorem IsOpened.value (h : IsOpened token) (hword : Word.ofToken? token = some word) :
    IsOpened word.value := by
  obtain ⟨excluded, text, htext, rfl⟩ := h
  rw [Word.of_token_quote] at hword
  cases hword
  exact ⟨false, _, fun c hc => htext c ((Word.drop_end_sublist _ text).mem hc), rfl⟩

/-- The values of well-shaped tokens are well shaped. -/
theorem WellShaped.values {texts : List Text} (h : WellShaped texts) :
    WellShaped ((texts.filterMap Word.ofToken?).map Word.value) := by
  induction h with
  | nil => exact .nil
  | bare token rest hbare _ ih =>
      cases hword : Word.ofToken? token with
      | none => rwa [List.filterMap_cons_none hword]
      | some word =>
          rw [List.filterMap_cons_some hword]
          exact .bare _ _ (hbare.value hword) ih
  | phrase token rest hphrase _ ih =>
      cases hword : Word.ofToken? token with
      | none => rwa [List.filterMap_cons_none hword]
      | some word =>
          rw [List.filterMap_cons_some hword]
          exact .phrase _ _ (hphrase.value hword) ih
  | opened token rest hopened hrest =>
      have hbare : ∀ value ∈ (rest.filterMap Word.ofToken?).map Word.value, IsBare value := by
        intro value hvalue
        obtain ⟨word, hword, rfl⟩ := List.mem_map.1 hvalue
        obtain ⟨later, hlater, hread⟩ := List.mem_filterMap.1 hword
        exact (hrest later hlater).value hread
      cases hword : Word.ofToken? token with
      | none =>
          rw [List.filterMap_cons_none hword]
          simpa using WellShaped.append_bare hbare .nil
      | some word =>
          rw [List.filterMap_cons_some hword]
          exact .opened _ _ (hopened.value hword) hbare

/-- The values of the words of a query are well shaped. -/
theorem well_shaped_words (query : Text) :
    WellShaped ((Extraction.ofTokens (tokens query)).words.map Word.value) := by
  rw [Extraction.words_eq_loose]
  exact ((well_shaped_tokens query).sublist (Extraction.loose_sublist _)).values

/-- Well-shaped tokens are not empty. -/
theorem WellShaped.ne_nil {texts : List Text} (h : WellShaped texts) :
    ∀ text ∈ texts, text ≠ [] := by
  intro text htext
  obtain hbare | ⟨excluded, inner, _, rfl⟩ | ⟨excluded, inner, _, rfl⟩ := h.mem htext
  · exact hbare.1
  · simp [Text.quoted]
  · simp

end Token

/-- Texts that are not empty are all kept when they are joined. -/
theorem Text.filled_of_ne_nil {texts : List Text} (h : ∀ text ∈ texts, text ≠ []) :
    Text.filled texts = texts := by
  rw [Text.filled, List.filter_eq_self]
  intro text htext
  simpa using h text htext

/-- Cutting the plain terms of a query into tokens gives back the values of its words that are no
tags, and splitting its tags at blanks gives back their names: on each side all of them, in order,
and nothing else. -/
theorem buckets_split (query : Text) (offset : Int) :
    let reading := Query.read query offset
    ∀ excluded,
      Token.tokens (reading.buckets.plain.side excluded) =
        Word.plainTexts excluded reading.extraction.words ∧
      Text.words (reading.buckets.tags.side excluded) =
        Word.tagNames excluded reading.extraction.words := by
  intro reading excluded
  have hbuckets : reading.buckets = Buckets.ofWords reading.extraction.words := rfl
  rw [hbuckets, Buckets.of_words_plain_side, Buckets.of_words_tags_side]
  constructor
  · have hshaped : Token.WellShaped (Word.plainTexts excluded reading.extraction.words) :=
      (Token.well_shaped_words query).sublist (List.filter_sublist.map Word.value)
    rw [Text.filled_of_ne_nil hshaped.ne_nil, hshaped.tokens_joined]
  · have hnames : ∀ name ∈ Word.tagNames excluded reading.extraction.words,
        name ≠ [] ∧ ∀ c ∈ name, Text.isBlank c = false := by
      intro name hname
      obtain ⟨word, _, _, hread⟩ := Word.mem_tag_names.1 hname
      have hplain := Tag.plain_of_mem_name (Tag.name_some_iff.1 hread).2
      exact ⟨Tag.name_ne_nil hread, fun c hc => (hplain c hc).1⟩
    rw [Text.filled_of_ne_nil fun name hname => (hnames name hname).1, Text.words_joined hnames]

end ForumQuery
