import ForumQuery.Proofs.Extraction.Blocks
import ForumQuery.Proofs.Resolution.Records
import ForumQuery.Proofs.Terms.Places

/-!
# Every term of a search has its place

A block of tokens gives at most one term: its search word, or the value of its flag if that is for
the title or the body. `search_terms_side` says that each side of each field holds the terms that
belong there, in the order of their blocks, and `text_at_build` that the records look up just this.
So all text of the records comes from the blocks, and none of it twice.
-/

namespace ForumQuery

open Writing (Term)

/-- The terms that a search has in a field. -/
def searchTerms (flags : List Flag) (buckets : Buckets) : Field → Terms
  | .title => Terms.ofFlags .title flags
  | .body => Terms.ofFlags .body flags
  | field => buckets.terms field

/-- The field that the flags of a name have terms for, if any. -/
def FlagName.field? : FlagName → Option Field
  | .title => some .title
  | .body => some .body
  | _ => none

/-- A flag for the title or the body as a term. Other flags are none. -/
def Flag.term? (flag : Flag) : Option Term :=
  flag.name.field?.map fun field => ⟨field, flag.excluded, flag.value⟩

/-- The term that a block gives, if any. -/
def Block.term? (block : Block) : Option Term :=
  match block.word? with
  | some found => some found.term
  | none => block.flag?.bind Flag.term?

/-- The terms of the tokens, in order. -/
def Extraction.terms (tokens : List Text) : List Term :=
  (blocks tokens).filterMap Block.term?

theorem texts_at_cons (place : Field × Bool) (term : Term) (terms : List Term) :
    textsAt place (term :: terms) =
      if term.place = place then term.text :: textsAt place terms else textsAt place terms := by
  by_cases h : term.place = place <;> simp [textsAt, h]

/-- Only flags for the title and the body have terms. -/
theorem FlagName.field_some {name : FlagName} {field : Field} (h : name.field? = some field) :
    name = .title ∧ field = .title ∨ name = .body ∧ field = .body := by
  cases name with
  | title =>
      cases h
      exact Or.inl ⟨rfl, rfl⟩
  | body =>
      cases h
      exact Or.inr ⟨rfl, rfl⟩
  | _ => cases h

/-- The flags of different names have terms for different fields. -/
theorem FlagName.field_inj {name other : FlagName} {field : Field}
    (h : name.field? = some field) (hother : other.field? = some field) : name = other := by
  obtain ⟨hname, hfield⟩ | ⟨hname, hfield⟩ := field_some h <;>
    obtain ⟨hname', hfield'⟩ | ⟨hname', hfield'⟩ := field_some hother <;> simp_all

namespace Flag

/-- The term of a flag is its value, for the title or the body. -/
theorem term_some {flag : Flag} {term : Term} (h : flag.term? = some term) :
    term.text = flag.value ∧ (term.field = .title ∨ term.field = .body) := by
  obtain ⟨field, hfield, rfl⟩ := Option.map_eq_some_iff.1 h
  exact ⟨rfl, (FlagName.field_some hfield).imp And.right And.right⟩

/-- The values of the flags for a field are the terms for that field. -/
theorem named_values_eq {name : FlagName} {field : Field} (hname : name.field? = some field)
    (excluded : Bool) (flags : List Flag) :
    (named name excluded flags).map value =
      textsAt (field, excluded) (flags.filterMap term?) := by
  induction flags with
  | nil => rfl
  | cons flag flags ih =>
      by_cases hsame : flag.name = name
      · have hterm : flag.term? = some ⟨field, flag.excluded, flag.value⟩ := by
          rw [term?, hsame, hname]
          rfl
        rw [List.filterMap_cons_some hterm, texts_at_cons, ← ih]
        by_cases hside : flag.excluded = excluded <;> simp [named, hsame, hside, Term.place]
      · have hnamed : named name excluded (flag :: flags) = named name excluded flags := by
          simp [named, hsame]
        rw [hnamed, ih]
        cases hterm : flag.term? with
        | none => rw [List.filterMap_cons_none hterm]
        | some term =>
            have hplace : term.place ≠ (field, excluded) := by
              intro h
              obtain ⟨other, hother, rfl⟩ := Option.map_eq_some_iff.1 hterm
              cases congrArg Prod.fst h
              exact hsame (FlagName.field_inj hother hname)
            rw [List.filterMap_cons_some hterm, texts_at_cons, if_neg hplace]

/-- Each side of a field with flags is the join of their terms. -/
theorem field_side {name : FlagName} {field : Field} (hname : name.field? = some field)
    (excluded : Bool) (flags : List Flag) :
    (Terms.ofFlags name flags).side excluded =
      Text.joined (Text.filled (textsAt (field, excluded) (flags.filterMap term?))) := by
  rw [← named_values_eq hname]
  cases excluded <;> rfl

end Flag

namespace Block

/-- A block with a word has no flag. -/
theorem flag_of_word {block : Block} {word : Word} (h : block.word? = some word) :
    block.flag? = none := by
  cases block with
  | word token => rfl
  | flag | valued => cases h

/-- Outside of the title and the body, the terms are those of the words. -/
theorem texts_at_words {field : Field} (htitle : field ≠ .title) (hbody : field ≠ .body)
    (excluded : Bool) (blocks : List Block) :
    textsAt (field, excluded) (blocks.filterMap term?) =
      textsAt (field, excluded) ((blocks.filterMap word?).map Word.term) := by
  induction blocks with
  | nil => rfl
  | cons block blocks ih =>
      cases hword : block.word? with
      | some word =>
          have hterm : block.term? = some word.term := by rw [term?, hword]
          rw [List.filterMap_cons_some hterm, List.filterMap_cons_some hword, List.map_cons,
            texts_at_cons, texts_at_cons, ih]
      | none =>
          rw [List.filterMap_cons_none hword, ← ih]
          cases hterm : block.term? with
          | none => rw [List.filterMap_cons_none hterm]
          | some term =>
              rw [term?, hword, Option.bind_eq_some_iff] at hterm
              obtain ⟨flag, hflag, hread⟩ := hterm
              have hplace : term.place ≠ (field, excluded) := by
                intro h
                have hfield : term.field = field := congrArg Prod.fst h
                cases (Flag.term_some hread).2 with
                | inl h => exact htitle (hfield.symm.trans h)
                | inr h => exact hbody (hfield.symm.trans h)
              have hterm : block.term? = some term := by rw [term?, hword, hflag]; exact hread
              rw [List.filterMap_cons_some hterm, texts_at_cons, if_neg hplace]

/-- In the title and the body, the terms are those of the flags. -/
theorem texts_at_flags {field : Field} (hplain : field ≠ .plain) (htag : field ≠ .tag)
    (excluded : Bool) (blocks : List Block) :
    textsAt (field, excluded) (blocks.filterMap term?) =
      textsAt (field, excluded) ((blocks.filterMap flag?).filterMap Flag.term?) := by
  induction blocks with
  | nil => rfl
  | cons block blocks ih =>
      cases hword : block.word? with
      | some word =>
          have hterm : block.term? = some word.term := by rw [term?, hword]
          have hplace : word.term.place ≠ (field, excluded) := by
            intro h
            have hfield : word.term.field = field := congrArg Prod.fst h
            cases word.term_field with
            | inl h => exact hplain (hfield.symm.trans h)
            | inr h => exact htag (hfield.symm.trans h)
          rw [List.filterMap_cons_some hterm, List.filterMap_cons_none (flag_of_word hword),
            texts_at_cons, if_neg hplace, ih]
      | none =>
          have hterm : block.term? = block.flag?.bind Flag.term? := by rw [term?, hword]
          cases hflag : block.flag? with
          | none =>
              rw [hflag] at hterm
              rw [List.filterMap_cons_none hterm, List.filterMap_cons_none hflag, ih]
          | some flag =>
              rw [hflag, Option.bind_some] at hterm
              rw [List.filterMap_cons_some hflag]
              cases hread : flag.term? with
              | none =>
                  rw [hread] at hterm
                  rw [List.filterMap_cons_none hterm, List.filterMap_cons_none hread, ih]
              | some term =>
                  rw [hread] at hterm
                  rw [List.filterMap_cons_some hterm, List.filterMap_cons_some hread,
                    texts_at_cons, texts_at_cons, ih]

end Block

/-- Each side of each field is the join of the terms that belong there. -/
theorem Extraction.search_terms_side (tokens : List Text) (field : Field) (excluded : Bool) :
    (searchTerms (ofTokens tokens).flags (Buckets.ofWords (ofTokens tokens).words) field).side
        excluded =
      Text.joined (Text.filled (textsAt (field, excluded) (terms tokens))) := by
  rw [of_tokens_blocks, terms]
  cases field with
  | title =>
      rw [Block.texts_at_flags (by decide) (by decide)]
      exact Flag.field_side rfl ..
  | body =>
      rw [Block.texts_at_flags (by decide) (by decide)]
      exact Flag.field_side rfl ..
  | plain | tag | similar | link =>
      rw [Block.texts_at_words (by decide) (by decide)]
      exact Buckets.of_words_side ..

namespace SearchRecord

/-- What some records look up in one field, on one side. -/
def textAt (records : List SearchRecord) (place : Field × Bool) : Text :=
  records.flatMap fun record =>
    if record.field = some place.1 then record.terms.side place.2 else []

/-- Text that is gathered from the records of a search is gathered from its fields, if none comes
from fields without terms. -/
theorem flat_map_build (gather : Option Field → Terms → Text) (hnone : ∀ field, gather field {} = [])
    (flags : List Flag) (buckets : Buckets) (offset : Int) :
    ((build flags buckets offset).flatMap fun record => gather record.field record.terms) =
      (candidates flags buckets).flatMap fun candidate => gather (some candidate.1) candidate.2 := by
  rw [build_eq]
  simp only
  split
  · next hempty =>
      have hfields : ((candidates flags buckets).flatMap fun candidate =>
          gather (some candidate.1) candidate.2) = [] := by
        rw [List.flatMap_eq_nil_iff]
        intro candidate hcandidate
        rw [hempty candidate hcandidate, hnone]
      rw [hfields]
      split <;> simp [hnone]
  · rw [List.flatMap_map]
    induction candidates flags buckets with
    | nil => rfl
    | cons candidate later ih =>
        rw [List.flatMap_cons, ← ih]
        by_cases h : candidate.2 = {} <;> simp [h, hnone]

/-- The records look up the terms of the fields. -/
theorem text_at_build (flags : List Flag) (buckets : Buckets) (offset : Int) (field : Field)
    (excluded : Bool) :
    textAt (build flags buckets offset) (field, excluded) =
      (searchTerms flags buckets field).side excluded := by
  have hside : ∀ other : Option Field,
      (if other = some field then ({} : Terms).side excluded else []) = [] := by
    intro other
    cases excluded <;> simp [Terms.side]
  rw [textAt, flat_map_build (fun other terms =>
    if other = some field then terms.side excluded else []) hside]
  cases field <;> cases excluded <;>
    simp [candidates, searchTerms, Buckets.terms, Terms.side]

/-- Of records with different fields, each alone looks in its field. -/
theorem text_at_of_mem {records : List SearchRecord} (hnodup : (records.map field).Nodup)
    {record : SearchRecord} (hmem : record ∈ records) {field : Field}
    (hfield : record.field = some field) (excluded : Bool) :
    textAt records (field, excluded) = record.terms.side excluded := by
  induction records with
  | nil => cases hmem
  | cons first later ih =>
      rw [List.map_cons, List.nodup_cons] at hnodup
      rw [textAt, List.flatMap_cons, ← textAt]
      cases hmem with
      | head =>
          have hlater : textAt later (field, excluded) = [] := by
            rw [textAt, List.flatMap_eq_nil_iff]
            intro other hother
            refine if_neg fun h => hnodup.1 ?_
            rw [hfield, ← h]
            exact List.mem_map_of_mem hother
          rw [if_pos hfield, hlater, List.append_nil]
      | tail _ hrest =>
          have hfirst : first.field ≠ some field := by
            intro h
            refine hnodup.1 ?_
            rw [h, ← hfield]
            exact List.mem_map_of_mem hrest
          rw [if_neg hfirst, List.nil_append, ih hnodup.2 hrest]

/-- The records look up nothing outside of these fields. -/
theorem flat_map_places (flags : List Flag) (buckets : Buckets) (offset : Int) :
    ((build flags buckets offset).flatMap fun record =>
      record.terms.included ++ record.terms.excluded) =
      (placesOf [.plain, .tag, .body, .title]).flatMap
        (textAt (build flags buckets offset)) := by
  rw [flat_map_build (fun _ terms => terms.included ++ terms.excluded) fun _ => rfl]
  simp [candidates, placesOf, text_at_build, searchTerms, Buckets.terms, Terms.side]

end SearchRecord

end ForumQuery
