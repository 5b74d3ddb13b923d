import ForumQuery.Proofs.Resolution.Places
import ForumQuery.Proofs.Extraction.Strip
import ForumQuery.Proofs.Token.Covering

/-!
# Where the text of records comes from

All text that records look up stands in the query, blanks aside. The term of a block has its
characters from the tokens of that block (`term_sublist`), each term belongs to one field and one
side, and the blocks have each token once. So `text_taken_from_query` can say of which character of
the query each character of the records is: none is invented, and none used twice.
-/

namespace ForumQuery

open Writing (Term)

/-- A character that is no blank. -/
def Text.isVisible (c : Char) : Bool :=
  !Text.isBlank c

/-- The text without its blanks. -/
def Text.visible (text : Text) : Text :=
  text.filter Text.isVisible

namespace Block

/-- The term of a block has its characters from the tokens of the block, in order. -/
theorem term_sublist {block : Block} {term : Term} (h : block.term? = some term) :
    term.text.Sublist block.tokens.flatten := by
  have hflag : ∀ (head : Flag.Head) (value : Text), (head.flag value).term? = some term →
      term.text.Sublist value := by
    intro head value hterm
    rw [(Flag.term_some hterm).1]
    exact Flag.unquote_sublist value
  cases block with
  | word token =>
      cases hword : Word.ofToken? token with
      | none => simp [term?, word?, loose?, flag?, hword] at h
      | some word =>
          have hterm : word.term = term := by simpa [term?, word?, loose?, hword] using h
          have hvalue : term.text.Sublist word.value := by
            rw [← hterm]
            cases word.term_text with
            | inl htext => rw [htext]
            | inr htext =>
                rw [htext]
                exact List.sublist_cons_self ..
          rw [← (Word.strip_of_token hword).1] at hvalue
          simpa [tokens] using hvalue.trans (Word.strip_sublist token)
  | flag token head shaped filled =>
      obtain ⟨name, _, htoken⟩ := Flag.head_some_iff.1 shaped
      have hsuffix : head.suffix.Sublist token := by
        rw [htoken]
        exact (List.sublist_cons_self ..).trans (List.sublist_append_right ..)
      simpa [tokens] using (hflag head head.suffix h).trans hsuffix
  | valued token head shaped valueless value =>
      simpa [tokens] using (hflag head value h).trans (List.sublist_append_right token value)

/-- The terms of blocks have their characters from the tokens, in order. -/
theorem terms_sublist (blocks : List Block) :
    ((blocks.filterMap term?).flatMap Term.text).Sublist (blocks.flatMap tokens).flatten := by
  induction blocks with
  | nil => exact List.Sublist.refl _
  | cons block blocks ih =>
      rw [List.flatMap_cons, List.flatten_append]
      cases hterm : block.term? with
      | none =>
          rw [List.filterMap_cons_none hterm]
          exact ih.trans (List.sublist_append_right ..)
      | some term =>
          rw [List.filterMap_cons_some hterm, List.flatMap_cons]
          exact (term_sublist hterm).append ih

end Block

/-- What passes a test that blanks fail is dealt out to the places where the records look. -/
theorem dealt_terms (test : Char → Bool) (hspace : test ' ' = false) (tokens : List Text)
    (offset : Int) :
    let extraction := Extraction.ofTokens tokens
    let records :=
      SearchRecord.build extraction.flags (Buckets.ofWords extraction.words) offset
    Text.Dealt (((Extraction.terms tokens).flatMap Term.text).filter test) fun place =>
      (SearchRecord.textAt records place).filter test := by
  intro extraction records
  refine (dealt_texts_at hspace (Extraction.terms tokens)).congr fun place => ?_
  obtain ⟨field, excluded⟩ := place
  rw [SearchRecord.text_at_build, Extraction.search_terms_side]

/-- The terms of a query have no more of what passes such a test than the query, in order. -/
theorem filter_terms_sublist (test : Char → Bool)
    (hblank : ∀ c, Text.isBlank c = true → test c = false) (query : Text) :
    (((Extraction.terms (Token.tokens query)).flatMap Term.text).filter test).Sublist
      (query.filter test) := by
  have hterms := Block.terms_sublist (Extraction.blocks (Token.tokens query))
  rw [Extraction.blocks_tokens] at hterms
  rw [(Token.spaced_tokens query).filter hblank]
  exact hterms.filter test

/-- Blanks aside, each character of the query goes to one place at most, a field and a side, and what
a record looks up there are just these characters in the order of the query. So each text of a
record is a part of the query in order, and all texts of all records together have no character more
often than the query. -/
theorem text_taken_from_query (query : Text) (offset : Int) :
    let records := Query.parse query offset
    (∃ used : Text, used.Sublist query.visible ∧
      used.Dealt fun place => (SearchRecord.textAt records place).visible) ∧
    (∀ record ∈ records, ∀ excluded,
      (record.terms.side excluded).visible.Sublist query.visible ∧
      ∀ field, record.field = some field →
        SearchRecord.textAt records (field, excluded) = record.terms.side excluded) ∧
    (Text.visible (records.flatMap fun record =>
      record.terms.included ++ record.terms.excluded)).Subperm query.visible := by
  intro records
  have hblank : ∀ c, Text.isBlank c = true → Text.isVisible c = false := by
    intro c hc
    rw [Text.isVisible, hc]
    rfl
  have hused := filter_terms_sublist Text.isVisible hblank query
  have hdealt := dealt_terms Text.isVisible (hblank ' ' (by decide)) (Token.tokens query) offset
  have hnodup : (records.map SearchRecord.field).Nodup := SearchRecord.fields_build_nodup ..
  refine ⟨⟨_, hused, hdealt⟩, fun record hrecord excluded => ⟨?_, fun field hfield => ?_⟩, ?_⟩
  · cases hfield : record.field with
    | none =>
        rw [(SearchRecord.alone_of_field_none hrecord hfield).2.1]
        cases excluded <;> exact List.nil_sublist _
    | some field =>
        rw [← SearchRecord.text_at_of_mem hnodup hrecord hfield]
        exact (hdealt.sublist (field, excluded)).trans hused
  · exact SearchRecord.text_at_of_mem hnodup hrecord hfield excluded
  · have hplaces : (records.flatMap fun record => record.terms.included ++ record.terms.excluded) =
        (placesOf [.plain, .tag, .body, .title]).flatMap (SearchRecord.textAt records) :=
      SearchRecord.flat_map_places ..
    rw [hplaces, Text.visible, List.filter_flatMap]
    exact (hdealt.subperm (by decide)).trans hused.subperm

/-- One letter in three places, each time from another part of the query. -/
theorem text_taken_from_query_title :
    let query : Text := "a -a title:a".toList
    let records := Query.parse query 0
    let record : SearchRecord :=
      ⟨⟨"a".toList, "a".toList⟩, some .plain, { postType := some .question }⟩
    record ∈ records ∧ record.field = some .plain ∧
      SearchRecord.textAt records (.plain, true) = "a".toList ∧
      (Text.visible "a".toList).Sublist query.visible ∧
      (∃ used : Text, used.Sublist query.visible ∧
        used.Dealt fun place => (SearchRecord.textAt records place).visible) ∧
      "aaa".toList.Subperm query.visible := by
  intro query records record
  have hmem : record ∈ records := by decide +kernel
  obtain ⟨hdealt, hrecord, hall⟩ := text_taken_from_query query 0
  obtain ⟨hsublist, htext⟩ := hrecord record hmem true
  have htexts : Text.visible (records.flatMap fun record =>
      record.terms.included ++ record.terms.excluded) = "aaa".toList := by
    decide +kernel
  rw [htexts] at hall
  exact ⟨hmem, rfl, htext .plain rfl, hsublist, hdealt, hall⟩

end ForumQuery
