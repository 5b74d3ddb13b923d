import ForumQuery.Proofs.Terms.Words
import ForumQuery.Proofs.Text.Dealing
import ForumQuery.Proofs.Writing.Item

/-!
# Every search word has its place

A search word is a term of one field on one side: a tag, or a plain term, and excluded or not. So
the buckets are the terms of the words sorted by their places. `of_words_side` says that each side
of a bucket is the join of the terms that belong there, in their order.
-/

namespace ForumQuery

open Writing (Term)

/-- The field and the side that a term belongs to. -/
def Writing.Term.place (term : Term) : Field × Bool :=
  (term.field, term.excluded)

/-- Both sides of some fields, the included terms of each before the excluded ones. -/
def placesOf (fields : List Field) : List (Field × Bool) :=
  fields.flatMap fun field => [(field, false), (field, true)]

theorem mem_places_of {fields : List Field} {field : Field} {excluded : Bool} :
    (field, excluded) ∈ placesOf fields ↔ field ∈ fields := by
  cases excluded <;> simp [placesOf]

/-- The texts of the terms that belong to a place, in order. -/
def textsAt (place : Field × Bool) (terms : List Term) : List Text :=
  (terms.filter fun term => term.place = place).map Term.text

/-- Joined place by place, terms deal out what they have of the characters that pass a test. -/
theorem dealt_texts_at {test : Char → Bool} (hspace : test ' ' = false) (terms : List Term) :
    Text.Dealt ((terms.flatMap Term.text).filter test) fun place =>
      (Text.joined (Text.filled (textsAt place terms))).filter test := by
  rw [List.filter_flatMap]
  refine (Text.dealt_pieces Term.place _ terms).congr fun place => ?_
  rw [Text.filter_joined hspace, textsAt, List.flatMap_map]

/-- The terms of a list of buckets in a field. -/
def Buckets.terms (buckets : Buckets) : Field → Terms
  | .plain => buckets.plain
  | .tag => buckets.tags
  | _ => {}

/-- A search word as a term: the name of its tag, or the whole word if it is none. -/
def Word.term (word : Word) : Term :=
  match Tag.name? word.value with
  | some name => ⟨.tag, word.excluded, name⟩
  | none => ⟨.plain, word.excluded, word.value⟩

namespace Word

/-- The word is a plain term or a tag. -/
theorem term_field (word : Word) : word.term.field = .plain ∨ word.term.field = .tag := by
  unfold term
  split
  · exact Or.inr rfl
  · exact Or.inl rfl

/-- A term has the text of its word, but for the hash of a tag. -/
theorem term_text (word : Word) :
    word.value = word.term.text ∨ word.value = '#' :: word.term.text := by
  unfold term
  split
  · next name hname => exact Or.inr (Tag.name_some_iff.1 hname).1
  · exact Or.inl rfl

/-- The words that are no tags are the plain terms. -/
theorem plain_texts_eq (excluded : Bool) (words : List Word) :
    plainTexts excluded words = textsAt (.plain, excluded) (words.map term) := by
  induction words with
  | nil => rfl
  | cons word words ih =>
      obtain ⟨value, side⟩ := word
      cases hname : Tag.name? value with
      | none =>
          by_cases hside : side = excluded <;>
            simp_all [plainTexts, textsAt, term, Term.place]
      | some name => simp_all [plainTexts, textsAt, term, Term.place]

/-- The names of the tags are the terms for tags. -/
theorem tag_names_eq (excluded : Bool) (words : List Word) :
    tagNames excluded words = textsAt (.tag, excluded) (words.map term) := by
  induction words with
  | nil => rfl
  | cons word words ih =>
      obtain ⟨value, side⟩ := word
      by_cases hside : side = excluded <;>
        cases hname : Tag.name? value <;> simp_all [tagNames, textsAt, term, Term.place]

end Word

/-- Each side of the buckets is the join of the terms that belong there. -/
theorem Buckets.of_words_side (words : List Word) (field : Field) (excluded : Bool) :
    ((ofWords words).terms field).side excluded =
      Text.joined (Text.filled (textsAt (field, excluded) (words.map Word.term))) := by
  have hnone : field ≠ .plain → field ≠ .tag →
      textsAt (field, excluded) (words.map Word.term) = [] := by
    intro hplain htag
    rw [textsAt, List.map_eq_nil_iff, List.filter_eq_nil_iff]
    intro t ht hplace
    obtain ⟨word, _, rfl⟩ := List.mem_map.1 ht
    have hfield : word.term.field = field := congrArg Prod.fst (of_decide_eq_true hplace)
    cases word.term_field with
    | inl h => exact hplain (hfield.symm.trans h)
    | inr h => exact htag (hfield.symm.trans h)
  cases field with
  | plain => rw [← Word.plain_texts_eq, ← of_words_plain_side]; rfl
  | tag => rw [← Word.tag_names_eq, ← of_words_tags_side]; rfl
  | title | body | similar | link =>
      rw [hnone (by decide) (by decide)]
      cases excluded <;> rfl

end ForumQuery
