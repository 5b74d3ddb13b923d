import ForumQuery.Proofs.Extraction.Strip
import ForumQuery.Proofs.Resolution.Places
import ForumQuery.Proofs.Text.Classes
import ForumQuery.Proofs.Token.Covering
import Mathlib.Data.List.Flatten

/-!
# No letter and no digit is lost

Stripping leaves all letters and decimal digits of a token (`filter_terms`), so a token that is left
out has none, and the hash that a tag goes without is none. `letters_kept` says that the buckets
have all letters and digits of the tokens that are read as search words, each of them once. Without
flags these are all letters and digits of the query, and the records look them up.
-/

namespace ForumQuery

open Writing (Term)

namespace Text

/-- A letter or decimal digit of any script. -/
def isLetterOrDigit (c : Char) : Bool :=
  isLetter c || isDecimalDigit c

/-- The letters and decimal digits of a text, in order. -/
def lettersAndDigits (text : Text) : Text :=
  text.filter isLetterOrDigit

/-- Blanks are no letters or digits. -/
theorem not_letter_or_digit_of_blank (c : Char) (h : isBlank c = true) :
    isLetterOrDigit c = false := by
  rw [isLetterOrDigit, (not_letter_of_blank h).1, (not_letter_of_blank h).2]
  rfl

end Text

namespace Word

/-- Letters and digits are never stripped. -/
theorem kept_of_letter_or_digit (c : Char) (h : Text.isLetterOrDigit c = true) :
    isKept c = true := by
  rw [Text.isLetterOrDigit] at h
  rw [isKept, h]
  rfl

variable {test : Char → Bool}

/-- The term of a word has all of the word but hashes. -/
theorem filter_term (hhash : test '#' = false) (word : Word) :
    word.term.text.filter test = word.value.filter test := by
  cases word.term_text with
  | inl h => rw [h]
  | inr h => rw [h, List.filter_cons_of_neg (by simp [hhash])]

/-- The terms of tokens have all characters of the tokens that are never stripped. -/
theorem filter_terms (hkept : ∀ c, test c = true → isKept c = true) (tokens : List Text) :
    (((tokens.filterMap ofToken?).map term).flatMap Term.text).filter test =
      tokens.flatten.filter test := by
  have hhash : test '#' = false := fails_of_not_kept hkept (by decide +kernel)
  induction tokens with
  | nil => rfl
  | cons token tokens ih =>
      rw [List.flatten_cons, List.filter_append, ← ih, ← filter_strip hkept token]
      cases hword : ofToken? token with
      | none =>
          rw [List.filterMap_cons_none hword, of_token_none_iff.1 hword]
          rfl
      | some word =>
          rw [List.filterMap_cons_some hword, List.map_cons, List.flatMap_cons, List.filter_append,
            filter_term hhash, (strip_of_token hword).1]

end Word

namespace Buckets

/-- Fields other than the plain terms and the tags have nothing in the buckets. -/
theorem side_eq_nil {field : Field} (hplain : field ≠ .plain) (htag : field ≠ .tag)
    (buckets : Buckets) (excluded : Bool) : (buckets.terms field).side excluded = [] := by
  cases field with
  | plain => exact absurd rfl hplain
  | tag => exact absurd rfl htag
  | _ => cases excluded <;> rfl

/-- The buckets deal out all characters of the tokens that are never stripped. -/
theorem dealt_of_words {test : Char → Bool} (hspace : test ' ' = false)
    (hkept : ∀ c, test c = true → Word.isKept c = true) (tokens : List Text) :
    Text.Dealt (tokens.flatten.filter test) fun place : Field × Bool =>
      (((ofWords (tokens.filterMap Word.ofToken?)).terms place.1).side place.2).filter test := by
  rw [← Word.filter_terms hkept]
  refine (dealt_texts_at hspace _).congr fun place => ?_
  obtain ⟨field, excluded⟩ := place
  rw [of_words_side]

/-- Plain terms and tags together have each of these characters as often as the tokens. -/
theorem perm_of_words {test : Char → Bool} (hspace : test ' ' = false)
    (hkept : ∀ c, test c = true → Word.isKept c = true) (tokens : List Text) :
    let buckets := ofWords (tokens.filterMap Word.ofToken?)
    ((buckets.plain.included ++ buckets.plain.excluded ++ buckets.tags.included ++
      buckets.tags.excluded).filter test).Perm (tokens.flatten.filter test) := by
  intro buckets
  have hnone : ∀ place, place ∉ placesOf [.plain, .tag] →
      ((buckets.terms place.1).side place.2).filter test = [] := by
    intro place hplace
    have hfield := mt mem_places_of.2 hplace
    simp only [List.mem_cons, List.not_mem_nil, or_false, not_or] at hfield
    rw [side_eq_nil hfield.1 hfield.2]
    rfl
  have hperm := (dealt_of_words hspace hkept tokens).perm (by decide) hnone
  simpa [placesOf, terms, Terms.side] using hperm

end Buckets

/-- Without flags, all tokens are read as search words. -/
theorem Extraction.loose_of_no_flags {tokens : List Text} (h : (ofTokens tokens).flags = []) :
    loose tokens = tokens := by
  have hblocks : ∀ blocks : List Block, blocks.filterMap Block.flag? = [] →
      blocks.filterMap Block.loose? = blocks.flatMap Block.tokens := by
    intro blocks hnone
    induction blocks with
    | nil => rfl
    | cons block blocks ih =>
        cases block with
        | word token => exact congrArg (token :: ·) (ih hnone)
        | flag | valued => cases hnone
  rw [of_tokens_blocks] at h
  rw [loose, hblocks _ h, blocks_tokens]

/-- Without flags, the records look up what is in the buckets. -/
theorem SearchRecord.text_at_no_flags (buckets : Buckets) (offset : Int) (field : Field)
    (excluded : Bool) :
    textAt (build [] buckets offset) (field, excluded) = (buckets.terms field).side excluded := by
  rw [text_at_build]
  cases field <;> rfl

/-- The letters and digits of a query are those of its tokens. -/
theorem Token.letters_of_tokens (query : Text) :
    query.lettersAndDigits = Text.lettersAndDigits (tokens query).flatten :=
  (spaced_tokens query).filter Text.not_letter_or_digit_of_blank

/-- Every letter and every digit of the tokens that are read as search words, that is of those that
are no flags and that no flag takes as its value, goes to one side of one bucket, and each side has
just its letters and digits in the order of the query. So the buckets have each of them as often as
the tokens. A query without flags has all its letters and digits in the plain and tag records. -/
theorem letters_kept (query : Text) (offset : Int) :
    let reading := Query.read query offset
    let blocks := Extraction.blocks reading.tokens
    let loose := Extraction.loose reading.tokens
    let letters : Text := Text.lettersAndDigits loose.flatten
    let buckets := reading.buckets
    blocks.flatMap Block.tokens = reading.tokens ∧
    reading.extraction = ⟨loose.filterMap Word.ofToken?, blocks.filterMap Block.flag?⟩ ∧
    letters.Sublist query.lettersAndDigits ∧
    (letters.Dealt fun place : Field × Bool =>
      ((buckets.terms place.1).side place.2).lettersAndDigits) ∧
    (Text.lettersAndDigits (buckets.plain.included ++ buckets.plain.excluded ++
      buckets.tags.included ++ buckets.tags.excluded)).Perm letters ∧
    (reading.extraction.flags = [] →
      (query.lettersAndDigits.Dealt fun place =>
        (SearchRecord.textAt reading.records place).lettersAndDigits) ∧
      ∀ place, place.1 ≠ .plain → place.1 ≠ .tag →
        SearchRecord.textAt reading.records place = []) := by
  intro reading blocks loose letters buckets
  have hwords : reading.extraction.words = loose.filterMap Word.ofToken? :=
    Extraction.words_eq_loose reading.tokens
  have hflags : reading.extraction.flags = blocks.filterMap Block.flag? :=
    congrArg Extraction.flags (Extraction.of_tokens_blocks reading.tokens)
  have hbuckets : buckets = Buckets.ofWords (loose.filterMap Word.ofToken?) := by
    rw [← hwords]
    rfl
  have hdealt : letters.Dealt fun place : Field × Bool =>
      ((buckets.terms place.1).side place.2).lettersAndDigits := by
    rw [hbuckets]
    exact Buckets.dealt_of_words (by decide +kernel) Word.kept_of_letter_or_digit loose
  have hperm : (Text.lettersAndDigits (buckets.plain.included ++ buckets.plain.excluded ++
      buckets.tags.included ++ buckets.tags.excluded)).Perm letters := by
    rw [hbuckets]
    exact Buckets.perm_of_words (by decide +kernel) Word.kept_of_letter_or_digit loose
  have hsublist : letters.Sublist query.lettersAndDigits := by
    rw [Token.letters_of_tokens]
    exact (Extraction.loose_sublist _).flatten.filter _
  refine ⟨Extraction.blocks_tokens _, ?_, hsublist, hdealt, hperm, fun hempty => ?_⟩
  · rw [← hwords, ← hflags]
  · have hrecords : ∀ place : Field × Bool, SearchRecord.textAt reading.records place =
        (buckets.terms place.1).side place.2 := by
      intro place
      show SearchRecord.textAt (SearchRecord.build reading.extraction.flags buckets offset) _ = _
      rw [hempty]
      exact SearchRecord.text_at_no_flags buckets offset place.1 place.2
    have hall : letters = query.lettersAndDigits := by
      show Text.lettersAndDigits (Extraction.loose (Token.tokens query)).flatten = _
      rw [Extraction.loose_of_no_flags hempty, Token.letters_of_tokens query]
    refine ⟨?_, fun place hplain htag => ?_⟩
    · rw [← hall]
      exact hdealt.congr fun place => congrArg Text.lettersAndDigits (hrecords place)
    · rw [hrecords]
      exact Buckets.side_eq_nil hplain htag buckets place.2

/-- Hashes and brackets go, and an underscore stays, but all letters and digits are found. -/
theorem letters_kept_tag :
    let query : Text := "é ##Rust_1 -x (42)".toList
    let reading := Query.read query 0
    reading.extraction.flags = [] ∧
      query.lettersAndDigits = "éRust1x42".toList ∧
      (query.lettersAndDigits.Dealt fun place =>
        (SearchRecord.textAt reading.records place).lettersAndDigits) ∧
      SearchRecord.textAt reading.records (.plain, false) = "é 42".toList ∧
      SearchRecord.textAt reading.records (.plain, true) = "x".toList ∧
      SearchRecord.textAt reading.records (.tag, false) = "Rust_1".toList ∧
      SearchRecord.textAt reading.records (.title, false) = [] := by
  intro query reading
  have hflags : reading.extraction.flags = [] := by decide +kernel
  obtain ⟨_, _, _, _, _, hall⟩ := letters_kept query 0
  obtain ⟨hdealt, hnone⟩ := hall hflags
  exact ⟨hflags, by decide +kernel, hdealt, by decide +kernel, by decide +kernel,
    by decide +kernel, hnone (.title, false) (by decide) (by decide)⟩

end ForumQuery
