import ForumQuery.Proofs.Terms.Words
import ForumQuery.Proofs.Token.Slices
import ForumQuery.Query

/-!
# Reading a query never cuts through a character

A query is cut in two places: the scanner cuts out tokens at offsets, and the hash of a tag is cut
off as its first byte. `Query.parse?` reads a query with a test before each of these cuts. The main
statement, `slices_on_boundaries`, says what the offsets are at every quote and at the end of a
query, that a tag begins with a character of one byte, and so that every query has its records.
-/

namespace ForumQuery

/-- A tag begins with its hash, which is one byte long. -/
theorem Tag.first_of_tag {text : Text} (h : isTag text = true) :
    ∃ first name, text = first :: name ∧ first.utf8Size = 1 := by
  obtain ⟨name, hname⟩ := Option.isSome_iff_exists.1 h
  exact ⟨'#', name, (name_some_iff.1 hname).1, rfl⟩

namespace Buckets

/-- With one more word, if the first byte of a tag can be cut off. -/
def add? (buckets : Buckets) (word : Word) : Option Buckets :=
  if Tag.isTag word.value then do
    let name ← word.value.slice? 1 word.value.byteLength
    return { buckets with tags := buckets.tags.add name word.excluded }
  else
    some { buckets with plain := buckets.plain.add word.value word.excluded }

/-- The terms of a list of words, if the first byte of every tag can be cut off. -/
def ofWords? (words : List Word) : Option Buckets :=
  words.foldlM add? {}

/-- What is left of a tag without its first byte is its name. -/
theorem checked_add (buckets : Buckets) (word : Word) :
    buckets.add? word = some (buckets.add word) := by
  cases hname : Tag.name? word.value with
  | none => simp [add?, add, Tag.isTag, hname]
  | some name =>
      obtain ⟨hvalue, _⟩ := Tag.name_some_iff.1 hname
      have hslice : word.value.slice? 1 word.value.byteLength = some name :=
        Text.slice?_eq_some_iff.2 ⟨['#'], [], by simp [hvalue], rfl, by simp [hvalue]⟩
      simp [add?, add, Tag.isTag, hname, hslice]

theorem checked_words (words : List Word) : ofWords? words = some (ofWords words) := by
  have hadd : add? = fun buckets word => pure (buckets.add word) := by
    funext buckets word
    exact buckets.checked_add word
  rw [ofWords?, hadd, List.foldlM_pure]
  rfl

end Buckets

/-- The search records of a query, if it can be cut wherever it has to be. -/
def Query.parse? (query : Text) (offset : Int) : Option (List SearchRecord) := do
  let tokens ← Token.tokens? query
  let extraction := Extraction.ofTokens tokens
  let buckets ← Buckets.ofWords? extraction.words
  return (Resolution.ofFlags extraction.flags offset).records buckets

theorem Query.checked_parse (query : Text) (offset : Int) :
    parse? query offset = some (parse query offset) := by
  simp [parse?, Token.checked_tokens, Buckets.checked_words, parse, read]

open Token

/-- The scanner comes to every place of a query with the offset of that place. The offsets that it
cuts at, at every quote and at the end, are in order and stand between characters. Only words whose
first character is one byte long lose their first byte. So no cut fails, and every query has its
records. -/
theorem slices_on_boundaries :
    (∀ front rest : Text,
      (Scan.after front).stretches rest <:+ stretches (front ++ rest) ∧
      (Scan.after front).position = front.byteLength) ∧
    (∀ front rest : Text, (Scan.after front).QuoteWithin (front ++ '"' :: rest)) ∧
    (∀ query : Text, (Scan.after query).mode.offset ≤ query.byteLength ∧
      query.IsBoundary (Scan.after query).mode.offset) ∧
    (∀ words : List Word,
      (∀ word ∈ words, Tag.isTag word.value = true →
        ∃ first name, word.value = first :: name ∧ first.utf8Size = 1) ∧
      Buckets.ofWords? words = some (Buckets.ofWords words)) ∧
    ∀ query offset, Query.parse? query offset = some (Query.parse query offset) := by
  refine ⟨fun front rest => ⟨Scan.stretches_after front rest, (Scan.end_within front).1⟩,
    Scan.quote_within, fun query => (Scan.end_within query).2, fun words => ⟨?_, ?_⟩,
    Query.checked_parse⟩
  · intro word _ htag
    exact Tag.first_of_tag htag
  · exact Buckets.checked_words words

/-- Between a letter of two bytes and a phrase, the dash is a byte of its own, and the tag behind
the phrase loses its hash alone. -/
theorem slices_on_boundaries_dash :
    let query : Text := "é-\"ü\" #日本".toList
    let tag : Word := ⟨"#日本".toList, false⟩
    Scan.after "é-".toList = ⟨.outside 0, some '-', 3⟩ ∧ opening 0 (some '-') 3 = 2 ∧
      OpensWithin query 0 (some '-') 3 ∧ ¬ query.IsBoundary 1 ∧
      Tag.isTag tag.value = true ∧
      (∃ first name, tag.value = first :: name ∧ first.utf8Size = 1) ∧
      Buckets.ofWords? [tag] = some (Buckets.ofWords [tag]) ∧
      Query.parse? query 0 = some (Query.parse query 0) := by
  intro query tag
  obtain ⟨_, hquote, _, hwords, hparse⟩ := slices_on_boundaries
  have hafter : Scan.after "é-".toList = ⟨.outside 0, some '-', 3⟩ := by decide
  have hcut : query = "é-".toList ++ '"' :: "ü\" #日本".toList := by decide
  have hopens : Scan.QuoteWithin query ⟨.outside 0, some '-', 3⟩ := by
    rw [hcut, ← hafter]
    exact hquote _ _
  have htag : Tag.isTag tag.value = true := by decide +kernel
  obtain ⟨hfirst, hchecked⟩ := hwords [tag]
  exact ⟨hafter, by decide, hopens, by decide, htag, hfirst tag List.mem_cons_self htag, hchecked,
    hparse query 0⟩

end ForumQuery
