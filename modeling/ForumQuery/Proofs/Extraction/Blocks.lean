import ForumQuery.Proofs.Extraction.Appending

/-!
# Blocks of tokens

Read from the left, the tokens fall into blocks: a search word, a flag with its value behind the
colon, or a flag without a value together with the next token, which is its value. So it is known of
every token what it is read as. `blocks_tokens` says that the blocks have all tokens and nothing
else, and `of_tokens_blocks` that each block gives its own words and flags. `loose` are the tokens
that are left for search words.
-/

namespace ForumQuery

/-- Neighbouring tokens that are read together. -/
inductive Block where
  /-- A token that is read as a search word. -/
  | word (token : Text)
  /-- A flag with its value behind the colon. -/
  | flag (token : Text) (head : Flag.Head) (shaped : Flag.head? token = some head)
      (filled : head.suffix ≠ [])
  /-- A flag without a value, and the token behind it that is its value. -/
  | valued (token : Text) (head : Flag.Head) (shaped : Flag.head? token = some head)
      (valueless : head.suffix = []) (value : Text)
  deriving DecidableEq

namespace Block

/-- The tokens of a block, in order. -/
def tokens : Block → List Text
  | word token => [token]
  | flag token _ _ _ => [token]
  | valued token _ _ _ value => [token, value]

/-- The token that is read as a search word. -/
def loose? : Block → Option Text
  | word token => some token
  | _ => none

/-- The search word that a block gives. -/
def word? (block : Block) : Option Word :=
  block.loose?.bind Word.ofToken?

/-- The flag that a block gives. -/
def flag? : Block → Option Flag
  | word _ => none
  | flag _ head _ _ => some (head.flag head.suffix)
  | valued _ head _ _ value => some (head.flag value)

/-- A word block puts the search word of its token, if any, in front. -/
theorem filter_map_word (token : Text) (blocks : List Block) :
    (word token :: blocks).filterMap word? =
      (Word.ofToken? token).toList ++ blocks.filterMap word? := by
  cases hword : Word.ofToken? token <;> simp [word?, loose?, hword]

end Block

namespace Extraction

/-- The blocks of a list of tokens. A flag without a value at the very end is read as a word. -/
def blocks : List Text → List Block
  | [] => []
  | token :: rest =>
      match hhead : Flag.head? token with
      | none => .word token :: blocks rest
      | some head =>
          if hsuffix : head.suffix = [] then
            match rest with
            | [] => [.word token]
            | value :: later => .valued token head hhead hsuffix value :: blocks later
          else
            .flag token head hhead hsuffix :: blocks rest

section

variable {token : Text} {head : Flag.Head}

/-- A token that is no flag is a block of its own. -/
theorem blocks_word (h : Flag.head? token = none) (rest : List Text) :
    blocks (token :: rest) = .word token :: blocks rest := by
  rw [blocks]
  split
  · rfl
  · next other hother =>
      rw [h] at hother
      cases hother

/-- A token that is a flag is a block of its own, unless it has no value and the next token is
there to be one. -/
theorem blocks_shaped (h : Flag.head? token = some head) (rest : List Text) :
    blocks (token :: rest) =
      if hsuffix : head.suffix = [] then
        match rest with
        | [] => [.word token]
        | value :: later => .valued token head h hsuffix value :: blocks later
      else
        .flag token head h hsuffix :: blocks rest := by
  rw [blocks]
  split
  · next hnone =>
      rw [h] at hnone
      cases hnone
  · next other hother =>
      obtain rfl := Option.some.inj (h.symm.trans hother)
      rfl

/-- A flag with a value behind its colon is a block of its own. -/
theorem blocks_flag (h : Flag.head? token = some head) (hsuffix : head.suffix ≠ [])
    (rest : List Text) : blocks (token :: rest) = .flag token head h hsuffix :: blocks rest := by
  rw [blocks_shaped h, dif_neg hsuffix]

/-- A flag without a value forms a block with the next token. -/
theorem blocks_valued (h : Flag.head? token = some head) (hsuffix : head.suffix = [])
    (value : Text) (rest : List Text) :
    blocks (token :: value :: rest) = .valued token head h hsuffix value :: blocks rest := by
  rw [blocks_shaped h, dif_pos hsuffix]

/-- Without a next token it is read as a word. -/
theorem blocks_last (h : Flag.head? token = some head) (hsuffix : head.suffix = []) :
    blocks [token] = [.word token] := by
  rw [blocks_shaped h, dif_pos hsuffix]

end

/-- The blocks have the tokens and nothing else, in order. -/
theorem blocks_tokens (tokens : List Text) : (blocks tokens).flatMap Block.tokens = tokens := by
  fun_induction blocks tokens with
  | case1 => rfl
  | case2 token rest hhead ih => rw [List.flatMap_cons, ih]; rfl
  | case3 token head hhead hsuffix => rfl
  | case4 token head hhead hsuffix value later ih => rw [List.flatMap_cons, ih]; rfl
  | case5 token rest head hhead hsuffix ih => rw [List.flatMap_cons, ih]; rfl

/-- The words and flags of the tokens are those of the blocks. -/
theorem of_tokens_blocks (tokens : List Text) :
    ofTokens tokens =
      ⟨(blocks tokens).filterMap Block.word?, (blocks tokens).filterMap Block.flag?⟩ := by
  fun_induction blocks tokens with
  | case1 => rfl
  | case2 token rest hhead ih =>
      rw [of_tokens_word hhead, ih, Block.filter_map_word]
      rfl
  | case3 token head hhead hsuffix =>
      rw [of_tokens_last hhead hsuffix, Block.filter_map_word]
      rfl
  | case4 token head hhead hsuffix value later ih =>
      rw [of_tokens_valueless hhead hsuffix, ih]
      rfl
  | case5 token rest head hhead hsuffix ih =>
      rw [of_tokens_flag hhead hsuffix, ih]
      rfl

/-- The tokens that are read as search words: no flags, and not taken as values by flags. -/
def loose (tokens : List Text) : List Text :=
  (blocks tokens).filterMap Block.loose?

/-- The words of the tokens are those of the tokens that are read as words. -/
theorem words_eq_loose (tokens : List Text) :
    (ofTokens tokens).words = (loose tokens).filterMap Word.ofToken? := by
  rw [of_tokens_blocks, loose, List.filterMap_filterMap]
  rfl

/-- The tokens that are read as words stand in their order among all tokens. -/
theorem loose_sublist (tokens : List Text) : (loose tokens).Sublist tokens := by
  have hblocks : ∀ blocks : List Block,
      (blocks.filterMap Block.loose?).Sublist (blocks.flatMap Block.tokens) := by
    intro blocks
    induction blocks with
    | nil => exact List.Sublist.refl _
    | cons block blocks ih =>
        cases block with
        | word token => exact ih.cons_cons token
        | flag token head shaped filled => exact ih.cons token
        | valued token head shaped valueless value => exact (ih.cons value).cons token
  have hloose := hblocks (blocks tokens)
  rwa [blocks_tokens] at hloose

end Extraction

end ForumQuery
