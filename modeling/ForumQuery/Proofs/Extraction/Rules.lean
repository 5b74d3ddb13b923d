import ForumQuery.Proofs.Extraction.Blocks

/-!
# The rules for reading tokens

`Flag.Shaped` says which tokens have the shape of a flag, and `Flag.Unquotes` which value is left of
a text when the quotes around it go. `Extraction.Reads` has one rule for each kind of block that
tokens fall into when they are read from the left. The main statement, `reads_iff`, says that the
rules cut every list of tokens into blocks in one way only, and give it the words and flags that
reading finds.
-/

namespace ForumQuery

namespace Flag

/-- A token has the shape of a flag if it has a colon and the text before the first one, less at
most one dash in front, is a flag name in some ASCII case. -/
def Shaped (token : Text) (head : Head) : Prop :=
  ∃ front spelled, token = front ++ ':' :: head.suffix ∧ ':' ∉ front ∧
    front = sign head.excluded ++ spelled ∧ spelled.map Char.toLower = head.name.text

/-- A value that is a text between two quotes loses these two. Any other value is kept. -/
inductive Unquotes : Text → Text → Prop where
  | quoted (inner : Text) : Unquotes inner.quoted inner
  | bare (text : Text) : (∀ inner : Text, text ≠ inner.quoted) → Unquotes text text

/-- The head of a token is found exactly if the token has the shape of a flag. -/
theorem head_iff_shaped {token : Text} {head : Head} :
    head? token = some head ↔ Shaped token head := by
  rw [head_some_iff]
  constructor
  · rintro ⟨spelled, hspelled, rfl⟩
    exact ⟨_, spelled, rfl, colon_free_of_spelled hspelled head.excluded, rfl, hspelled⟩
  · rintro ⟨front, spelled, htoken, -, rfl, hspelled⟩
    exact ⟨spelled, hspelled, htoken⟩

/-- No head is found exactly if the token has not the shape of any flag. -/
theorem head_none_iff_not_shaped {token : Text} :
    head? token = none ↔ ∀ head, ¬ Shaped token head := by
  rw [Option.eq_none_iff_forall_ne_some]
  exact forall_congr' fun head => not_congr head_iff_shaped

/-- Quotes go by the rule. -/
theorem unquotes_unquote (text : Text) : Unquotes text (unquote text) := by
  unfold unquote
  split
  · next rest =>
      split
      · next hlast =>
          obtain ⟨inner, rfl⟩ := List.getLast?_eq_some_iff.1 hlast
          rw [List.dropLast_concat]
          exact .quoted inner
      · next hlast =>
          refine .bare _ fun inner hquoted => hlast ?_
          rw [(List.cons.inj hquoted).2, List.getLast?_concat]
  · next hfront => exact .bare _ fun inner hquoted => hfront _ hquoted

/-- The rule leaves one value. -/
theorem unquote_iff {text value : Text} : unquote text = value ↔ Unquotes text value := by
  constructor
  · rintro rfl
    exact unquotes_unquote text
  · intro h
    cases h with
    | quoted => exact unquote_quoted value
    | bare _ hbare =>
        have hrule := unquotes_unquote text
        generalize unquote text = left at hrule
        cases hrule with
        | quoted => exact absurd rfl (hbare left)
        | bare => rfl

end Flag

namespace Extraction

/-- What blocks of tokens give when they are read one after the other. -/
inductive Reads : List (List Text) → Extraction → Prop where
  /-- No tokens give nothing. -/
  | nil : Reads [] ⟨[], []⟩
  /-- A flag with text behind its colon is a block of its own, and that text is its value. -/
  | flag (token rest head value later) :
      Flag.Shaped token head → head.suffix ≠ [] → Flag.Unquotes head.suffix value →
      Reads rest later →
      Reads ([token] :: rest) ⟨later.words, ⟨head.name, value, head.excluded⟩ :: later.flags⟩
  /-- A flag with nothing behind its colon forms a block with the next token, whatever that is, and
  the whole of it is its value. -/
  | valued (token next rest head value later) :
      Flag.Shaped token head → head.suffix = [] → Flag.Unquotes next value →
      Reads rest later →
      Reads ([token, next] :: rest)
        ⟨later.words, ⟨head.name, value, head.excluded⟩ :: later.flags⟩
  /-- A token without the shape of a flag gives its search word, if it has one. -/
  | word (token rest later) :
      (∀ head, ¬ Flag.Shaped token head) → Reads rest later →
      Reads ([token] :: rest) ⟨(Word.ofToken? token).toList ++ later.words, later.flags⟩
  /-- So does a flag with nothing behind its colon that is the last token. -/
  | last (token head) :
      Flag.Shaped token head → head.suffix = [] →
      Reads [[token]] ⟨(Word.ofToken? token).toList, []⟩

/-- The blocks of tokens, each as the list of its tokens. -/
def division (tokens : List Text) : List (List Text) :=
  (blocks tokens).map Block.tokens

/-- The division leaves out no token and adds none. -/
theorem division_flatten (tokens : List Text) : (division tokens).flatten = tokens := by
  rw [division, ← List.flatMap_def, blocks_tokens]

/-- The division is read by the rules, and gives the words and flags of the tokens. -/
theorem reads_division (tokens : List Text) : Reads (division tokens) (ofTokens tokens) := by
  unfold division
  fun_induction blocks tokens with
  | case1 => exact .nil
  | case2 token rest hhead ih =>
      rw [of_tokens_word hhead]
      exact .word token _ _ (Flag.head_none_iff_not_shaped.1 hhead) ih
  | case3 token head hhead hsuffix =>
      rw [of_tokens_last hhead hsuffix, addToken, List.append_nil]
      exact .last token head (Flag.head_iff_shaped.1 hhead) hsuffix
  | case4 token head hhead hsuffix value later ih =>
      rw [of_tokens_valueless hhead hsuffix]
      exact .valued token value _ head _ _ (Flag.head_iff_shaped.1 hhead) hsuffix
        (Flag.unquotes_unquote value) ih
  | case5 token rest head hhead hsuffix ih =>
      rw [of_tokens_flag hhead hsuffix]
      exact .flag token _ head _ _ (Flag.head_iff_shaped.1 hhead) hsuffix
        (Flag.unquotes_unquote head.suffix) ih

/-- Blocks that are read by the rules are the division of their tokens, and what they give is what
is found in these. -/
theorem Reads.unique {blocks : List (List Text)} {reading : Extraction} (h : Reads blocks reading) :
    blocks = division blocks.flatten ∧ reading = ofTokens blocks.flatten := by
  induction h with
  | nil => exact ⟨rfl, rfl⟩
  | flag token rest head value later hshaped hsuffix hvalue _ ih =>
      have hhead := Flag.head_iff_shaped.2 hshaped
      rw [List.flatten_cons, List.singleton_append, division, blocks_flag hhead hsuffix,
        of_tokens_flag hhead hsuffix, ← ih.2, Flag.Head.flag, Flag.unquote_iff.2 hvalue]
      exact ⟨congrArg ([token] :: ·) ih.1, rfl⟩
  | valued token next rest head value later hshaped hsuffix hvalue _ ih =>
      have hhead := Flag.head_iff_shaped.2 hshaped
      show _ = division (token :: next :: rest.flatten) ∧
        _ = ofTokens (token :: next :: rest.flatten)
      rw [division, blocks_valued hhead hsuffix, of_tokens_valueless hhead hsuffix, ← ih.2,
        Flag.Head.flag, Flag.unquote_iff.2 hvalue]
      exact ⟨congrArg ([token, next] :: ·) ih.1, rfl⟩
  | word token rest later hshaped _ ih =>
      have hhead := Flag.head_none_iff_not_shaped.2 hshaped
      rw [List.flatten_cons, List.singleton_append, division, blocks_word hhead,
        of_tokens_word hhead, ← ih.2]
      exact ⟨congrArg ([token] :: ·) ih.1, rfl⟩
  | last token head hshaped hsuffix =>
      have hhead := Flag.head_iff_shaped.2 hshaped
      show _ = division [token] ∧ _ = ofTokens [token]
      rw [division, blocks_last hhead hsuffix, of_tokens_last hhead hsuffix, addToken,
        List.append_nil]
      exact ⟨rfl, rfl⟩

/-- Every list of tokens falls into blocks that the rules read in one way only, and then they give
the words and flags that are found in the tokens, and no others. -/
theorem reads_iff (tokens : List Text) (blocks : List (List Text)) (reading : Extraction) :
    blocks.flatten = tokens ∧ Reads blocks reading ↔
      blocks = division tokens ∧ reading = ofTokens tokens := by
  constructor
  · rintro ⟨rfl, hreads⟩
    exact hreads.unique
  · rintro ⟨rfl, rfl⟩
    exact ⟨division_flatten tokens, reads_division tokens⟩

example : ofTokens ["body:".toList, "title:".toList, "-IS:\"".toList, "to:".toList] =
    ⟨[⟨"to".toList, false⟩], [⟨.body, "title:".toList, false⟩, ⟨.is, "\"".toList, true⟩]⟩ := by
  decide +kernel

end Extraction

end ForumQuery
