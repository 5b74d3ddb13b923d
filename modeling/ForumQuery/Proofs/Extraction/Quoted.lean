import ForumQuery.Proofs.Extraction.Blocks
import ForumQuery.Proofs.Extraction.Strip
import ForumQuery.Proofs.Terms.Words
import ForumQuery.Proofs.Token.Shape

/-!
# What stands in quotes is not read

A token with a quote in it has the quote in front, so it is no flag, whatever stands behind the
quote: it is the value of the flag before it, or a search word. `quoted_text_opaque` says so of the
tokens of every query, and that a phrase comes through with all that it has between its quotes: as a
value without the quotes, and as a word with them.
-/

namespace ForumQuery

namespace Block

/-- The flag without a value in this block takes the token as its value. -/
def Takes (block : Block) (token : Text) : Prop :=
  ∃ asking head shaped valueless, block = .valued asking head shaped valueless token

/-- A token that is no flag is a word, or is taken by the flag in front of it. -/
theorem word_or_takes {block : Block} {token : Text} (hmem : token ∈ block.tokens)
    (hhead : Flag.head? token = none) : block = .word token ∨ block.Takes token := by
  cases block with
  | word other =>
      rw [List.mem_singleton.1 hmem]
      exact Or.inl rfl
  | flag other head shaped filled =>
      rw [List.mem_singleton.1 hmem, shaped] at hhead
      cases hhead
  | valued asking head shaped valueless value =>
      simp only [tokens, List.mem_cons, List.not_mem_nil, or_false] at hmem
      cases hmem with
      | inl hasking =>
          rw [hasking, shaped] at hhead
          cases hhead
      | inr hvalue =>
          rw [hvalue]
          exact Or.inr ⟨asking, head, shaped, valueless, rfl⟩

/-- A word has no token behind it to take. -/
theorem word_takes_none (token value : Text) : ¬ (word token).Takes value := by
  intro h
  obtain ⟨asking, head, shaped, valueless, hblock⟩ := h
  cases hblock

/-- A phrase that is taken loses its quotes and nothing else. -/
theorem Takes.phrase {block : Block} {text : Text} (h : block.Takes text.quoted) :
    ∃ flag, block.flag? = some flag ∧ flag.value = text := by
  obtain ⟨asking, head, shaped, valueless, rfl⟩ := h
  exact ⟨head.flag text.quoted, rfl, Flag.unquote_quoted text⟩

end Block

/-- A text in quotes has no hash in front, so it is no tag. -/
theorem Tag.name_of_quoted (text : Text) : Tag.name? text.quoted = none := rfl

/-- A token with a quote is never a flag, whatever it has and whatever follows it. It is taken as
its value by a flag without one just before it, or it is a search word. A phrase that is not taken
is a word that keeps its quotes and its text, is no tag, and goes verbatim behind the plain terms
before it on its side; one that is taken, with no dash in front, gives just its text. -/
theorem quoted_text_opaque (query : Text) (offset : Int) :
    let reading := Query.read query offset
    let blocks := Extraction.blocks reading.tokens
    blocks.flatMap Block.tokens = reading.tokens ∧
    reading.extraction = ⟨blocks.filterMap Block.word?, blocks.filterMap Block.flag?⟩ ∧
    ∀ front block back (token : Text), blocks = front ++ block :: back → token ∈ block.tokens →
      '"' ∈ token →
      Flag.head? token = none ∧
      (block.Takes token ∨ block = .word token ∧ ∃ word, block.word? = some word) ∧
      (∀ text : Text, token = text.quoted → block.Takes token →
        ∃ flag, block.flag? = some flag ∧ flag.value = text) ∧
      ∀ excluded (text : Text), token = Flag.sign excluded ++ text.quoted → ¬ block.Takes token →
        let earlier := Buckets.ofWords (front.filterMap Block.word?)
        let later := Buckets.ofWords (back.filterMap Block.word?)
        block.word? = some ⟨text.quoted, excluded⟩ ∧
        Tag.isTag text.quoted = false ∧
        reading.buckets.plain = (earlier.plain.add text.quoted excluded).append later.plain ∧
        reading.buckets.tags = earlier.tags.append later.tags := by
  intro reading blocks
  have hextraction : reading.extraction =
      ⟨blocks.filterMap Block.word?, blocks.filterMap Block.flag?⟩ :=
    Extraction.of_tokens_blocks reading.tokens
  refine ⟨Extraction.blocks_tokens _, hextraction, ?_⟩
  intro front block back token hblocks hmem hquote
  have htoken : token ∈ reading.tokens := by
    rw [← Extraction.blocks_tokens reading.tokens, List.mem_flatMap]
    refine ⟨block, ?_, hmem⟩
    show block ∈ blocks
    rw [hblocks]
    exact List.mem_append_right _ List.mem_cons_self
  obtain ⟨dash, behind, hfront⟩ :=
    (Token.well_shaped_tokens query).quote_in_front htoken hquote
  have hhead : Flag.head? token = none := by
    rw [hfront]
    exact Flag.head_of_quote dash behind
  have hread := Block.word_or_takes hmem hhead
  refine ⟨hhead, ?_, ?_, ?_⟩
  · cases hread with
    | inl hword =>
        refine Or.inr ⟨hword, ?_⟩
        rw [hword, hfront]
        exact ⟨_, Word.of_token_quote dash behind⟩
    | inr htakes => exact Or.inl htakes
  · intro text hphrase htakes
    rw [hphrase] at htakes
    exact htakes.phrase
  · intro excluded text hphrase hfree earlier later
    have hword : block.word? = some ⟨text.quoted, excluded⟩ := by
      rw [hread.resolve_right hfree, hphrase]
      exact Word.of_token_phrase text excluded
    have hwords : reading.extraction.words =
        front.filterMap Block.word? ++ ⟨text.quoted, excluded⟩ :: back.filterMap Block.word? := by
      rw [hextraction]
      show blocks.filterMap Block.word? = _
      rw [hblocks, List.filterMap_append, List.filterMap_cons_some hword]
    have hbuckets : reading.buckets =
        { plain := (earlier.plain.add text.quoted excluded).append later.plain
          tags := earlier.tags.append later.tags } := by
      show Buckets.ofWords reading.extraction.words = _
      rw [hwords]
      exact Buckets.of_words_plain (Tag.name_of_quoted text) ..
    exact ⟨hword, rfl, congrArg Buckets.plain hbuckets, congrArg Buckets.tags hbuckets⟩

/-- A phrase with a colon is taken without its quotes, and one that looks like a tag and a flag is a
word with them, excluded by the dash before it. -/
theorem quoted_text_opaque_phrases :
    let reading := Query.read "body:\"a: b\" -\"#is:x (y\" z \"q".toList 0
    let taken : Block :=
      .valued "body:".toList ⟨.body, false, []⟩ (by decide) rfl (Text.quoted "a: b".toList)
    let kept : Block := .word ('-' :: Text.quoted "#is:x (y".toList)
    let behind : List Block := [.word "z".toList, .word "\"q".toList]
    Extraction.blocks reading.tokens = taken :: kept :: behind ∧
      taken.Takes (Text.quoted "a: b".toList) ∧
      (∃ flag, taken.flag? = some flag ∧ flag.value = "a: b".toList) ∧
      ¬ kept.Takes ('-' :: Text.quoted "#is:x (y".toList) ∧
      kept.word? = some ⟨Text.quoted "#is:x (y".toList, true⟩ ∧
      reading.buckets.plain =
        (Terms.add {} (Text.quoted "#is:x (y".toList) true).append ⟨"z \"q".toList, []⟩ := by
  intro reading taken kept behind
  have hblocks : Extraction.blocks reading.tokens = taken :: kept :: behind := by decide +kernel
  have htakes : taken.Takes (Text.quoted "a: b".toList) := ⟨_, _, _, _, rfl⟩
  have hfree : ¬ kept.Takes ('-' :: Text.quoted "#is:x (y".toList) := Block.word_takes_none _ _
  obtain ⟨_, _, hopaque⟩ := quoted_text_opaque "body:\"a: b\" -\"#is:x (y\" z \"q".toList 0
  obtain ⟨_, _, htaken, _⟩ :=
    hopaque [] taken (kept :: behind) (Text.quoted "a: b".toList) hblocks (by decide) (by decide)
  obtain ⟨_, _, _, hkept⟩ :=
    hopaque [taken] kept behind ('-' :: Text.quoted "#is:x (y".toList) hblocks (by decide)
      (by decide)
  obtain ⟨hword, _, hplain, _⟩ := hkept true "#is:x (y".toList rfl hfree
  refine ⟨hblocks, htakes, htaken "a: b".toList rfl htakes, hfree, hword, hplain.trans ?_⟩
  decide +kernel

end ForumQuery
