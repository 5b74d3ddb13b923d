import ForumQuery.Buckets
import ForumQuery.Proofs.Extraction.Blocks
import ForumQuery.Proofs.Extraction.Strip

/-!
# Dashes exclude

A dash in front of a token excludes what the token gives and changes nothing else about it, whether
that is a search word or a flag. The main statement, `dash_excludes`, says so of a single token, and
of all tokens of a query at once if none of them has a dash yet and no flag takes its value from the
next token. Then the terms of the words change sides.
-/

namespace ForumQuery

/-- The same word, excluded. -/
def Word.exclude (word : Word) : Word :=
  { word with excluded := true }

/-- The same flag, excluded. -/
def Flag.exclude (flag : Flag) : Flag :=
  { flag with excluded := true }

/-- The same word on the other side. -/
def Word.flip (word : Word) : Word :=
  { word with excluded := !word.excluded }

/-- The terms with their sides exchanged. -/
def Terms.exchange (terms : Terms) : Terms :=
  ⟨terms.excluded, terms.included⟩

/-- The buckets with the sides of both kinds of terms exchanged. -/
def Buckets.exchange (buckets : Buckets) : Buckets :=
  ⟨buckets.plain.exchange, buckets.tags.exchange⟩

namespace Buckets

/-- A word on the other side goes to the other side of its bucket. -/
theorem add_flip (buckets : Buckets) (word : Word) :
    buckets.exchange.add word.flip = (buckets.add word).exchange := by
  obtain ⟨value, excluded⟩ := word
  cases hname : Tag.name? value <;> cases excluded <;>
    simp [add, exchange, Word.flip, Terms.exchange, Terms.add, hname]

/-- Words that all change sides exchange the sides of the buckets. -/
theorem of_words_flip (words : List Word) :
    ofWords (words.map Word.flip) = (ofWords words).exchange := by
  have hfold : ∀ buckets : Buckets,
      (words.map Word.flip).foldl add buckets.exchange = (words.foldl add buckets).exchange := by
    induction words with
    | nil => exact fun _ => rfl
    | cons word words ih =>
        intro buckets
        rw [List.map_cons, List.foldl_cons, List.foldl_cons, add_flip, ih]
  exact hfold {}

end Buckets

/-- A dash in front of a token excludes its word, and a token without a word has none with it. -/
theorem Word.of_token_dash (token : Text) :
    ofToken? ('-' :: token) = (ofToken? token).map exclude := by
  cases hword : ofToken? token with
  | none => rw [Option.map_none, of_token_none_iff, strip_dash, of_token_none_iff.1 hword]
  | some word =>
      obtain ⟨hstrip, hne⟩ := strip_of_token hword
      exact of_token_eq ((strip_dash token).trans hstrip) hne

namespace Flag

variable {token : Text}

/-- A token that begins with no dash is an included flag, if any. -/
theorem head_included (hdash : token.head? ≠ some '-') {head : Head}
    (h : head? token = some head) : head.excluded = false := by
  obtain ⟨text, _, htoken⟩ := head_some_iff.1 h
  rw [← Bool.not_eq_true]
  intro hexcluded
  rw [htoken, hexcluded] at hdash
  exact hdash rfl

/-- With a dash in front of it, it is the same flag, excluded. -/
theorem head_dash (hdash : token.head? ≠ some '-') :
    head? ('-' :: token) = (head? token).map fun head => { head with excluded := true } := by
  cases hhead : head? token with
  | none =>
      have hname : nameText ('-' :: token) = nameText token :=
        (name_text_signed hdash true).trans (name_text_signed hdash false).symm
      rw [Option.map_none, head_eq_none_iff, hname]
      intro hcolon
      exact head_eq_none_iff.1 hhead (by simpa using hcolon)
  | some head =>
      obtain ⟨text, hspelled, htoken⟩ := head_some_iff.1 hhead
      rw [head_included hdash hhead] at htoken
      refine head_some_iff.2 ⟨text, hspelled, ?_⟩
      rw [htoken]
      rfl

end Flag

namespace Extraction

variable {tokens : List Text}

/-- Tokens that begin with no dash give included words. -/
theorem words_included (hdash : ∀ token ∈ tokens, token.head? ≠ some '-') :
    ∀ word ∈ (ofTokens tokens).words, word.excluded = false := by
  intro word hword
  rw [words_eq_loose] at hword
  obtain ⟨token, htoken, hread⟩ := List.mem_filterMap.1 hword
  rw [← Bool.not_eq_true, Word.excluded_of_token hread]
  exact hdash token ((loose_sublist tokens).mem htoken)

/-- They also give included flags. -/
theorem flags_included (hdash : ∀ token ∈ tokens, token.head? ≠ some '-') :
    ∀ flag ∈ (ofTokens tokens).flags, flag.excluded = false := by
  intro flag hflag
  rw [of_tokens_blocks] at hflag
  obtain ⟨block, hblock, hread⟩ := List.mem_filterMap.1 hflag
  have htokens : ∀ token ∈ block.tokens, token ∈ tokens := by
    intro token htoken
    rw [← blocks_tokens tokens]
    exact List.mem_flatMap.2 ⟨block, hblock, htoken⟩
  cases block with
  | word token => cases hread
  | flag token head shaped filled =>
      cases hread
      exact Flag.head_included (hdash token (htokens token List.mem_cons_self)) shaped
  | valued token head shaped valueless value =>
      cases hread
      exact Flag.head_included (hdash token (htokens token List.mem_cons_self)) shaped

/-- With a dash in front of every token, all words and flags are excluded and else the same, if no
flag takes its value from the next token. -/
theorem of_tokens_dashed (hdash : ∀ token ∈ tokens, token.head? ≠ some '-')
    (hvalue : ∀ token ∈ tokens, ¬ Flag.IsValueless token) :
    ofTokens (tokens.map ('-' :: ·)) =
      ⟨(ofTokens tokens).words.map Word.exclude, (ofTokens tokens).flags.map Flag.exclude⟩ := by
  induction tokens with
  | nil => rfl
  | cons token rest ih =>
      obtain ⟨htoken, hrest⟩ := List.forall_mem_cons.1 hdash
      obtain ⟨hfilled, hlater⟩ := List.forall_mem_cons.1 hvalue
      have hdashed := Flag.head_dash htoken
      rw [List.map_cons]
      cases hhead : Flag.head? token with
      | none =>
          rw [hhead, Option.map_none] at hdashed
          rw [of_tokens_word hdashed, of_tokens_word hhead, ih hrest hlater, addToken, addToken,
            Word.of_token_dash, List.map_append]
          cases Word.ofToken? token <;> rfl
      | some head =>
          have hsuffix : head.suffix ≠ [] := fun hempty => hfilled ⟨head, hhead, hempty⟩
          rw [hhead, Option.map_some] at hdashed
          rw [of_tokens_flag hdashed hsuffix, of_tokens_flag hhead hsuffix, ih hrest hlater]
          rfl

end Extraction

/-- A dash in front of a token excludes its search word and changes nothing else, and a token that
has none has none with a dash. In front of all tokens of a list, dashes exclude all words and flags
and change nothing else, if no token begins with a dash already and none is the name of a flag, in
any ASCII case, with a colon and nothing behind it. Without the dashes all of them are included, so
the terms of the words go from the one side of their bucket to the other. -/
theorem dash_excludes :
    (∀ token, Word.ofToken? ('-' :: token) = (Word.ofToken? token).map Word.exclude) ∧
    ∀ tokens : List Text, (∀ token ∈ tokens, token.head? ≠ some '-') →
      (∀ token ∈ tokens, ∀ text, ∀ name : FlagName,
        text.map Char.toLower = name.text → token ≠ text ++ [':']) →
      let plain := Extraction.ofTokens tokens
      let dashed := Extraction.ofTokens (tokens.map ('-' :: ·))
      (∀ word ∈ plain.words, word.excluded = false) ∧
      (∀ flag ∈ plain.flags, flag.excluded = false) ∧
      dashed.words = plain.words.map Word.exclude ∧
      dashed.flags = plain.flags.map Flag.exclude ∧
      Buckets.ofWords dashed.words = (Buckets.ofWords plain.words).exchange := by
  refine ⟨Word.of_token_dash, fun tokens hdash hnames => ?_⟩
  intro plain dashed
  have hvalue : ∀ token ∈ tokens, ¬ Flag.IsValueless token := by
    intro token htoken hvalueless
    obtain ⟨excluded, text, name, hspelled, rfl⟩ := Flag.valueless_iff.1 hvalueless
    cases excluded with
    | false => exact hnames _ htoken text name hspelled rfl
    | true => exact hdash _ htoken rfl
  have hdashed := Extraction.of_tokens_dashed hdash hvalue
  have hwords := congrArg Extraction.words hdashed
  have hincluded := Extraction.words_included hdash
  refine ⟨hincluded, Extraction.flags_included hdash, hwords, congrArg Extraction.flags hdashed, ?_⟩
  -- An included word changes sides by being excluded.
  have hflip : plain.words.map Word.exclude = plain.words.map Word.flip := by
    refine List.map_congr_left fun word hword => ?_
    rw [Word.flip, hincluded word hword]
    rfl
  rw [hwords, hflip, Buckets.of_words_flip]

/-- A phrase, a tag and a wildcard behind a bracket change sides, and so does a flag whose name is
spelled in capitals; a token of punctuation alone has no word on either side. -/
theorem dash_excludes_tokens :
    let tokens : List Text :=
      ["\"a b\"".toList, "##rust".toList, "TITLE:\"x\"".toList, "(c*)".toList, "?!".toList]
    let plain := Extraction.ofTokens tokens
    let dashed := Extraction.ofTokens (tokens.map ('-' :: ·))
    (∀ token ∈ tokens, token.head? ≠ some '-') ∧
      plain.words = [⟨"\"a b\"".toList, false⟩, ⟨"#rust".toList, false⟩, ⟨"c*".toList, false⟩] ∧
      plain.flags = [⟨.title, "x".toList, false⟩] ∧
      dashed.words = [⟨"\"a b\"".toList, true⟩, ⟨"#rust".toList, true⟩, ⟨"c*".toList, true⟩] ∧
      dashed.flags = [⟨.title, "x".toList, true⟩] ∧
      Buckets.ofWords dashed.words =
        ⟨⟨[], "\"a b\" c*".toList⟩, ⟨[], "rust".toList⟩⟩ := by
  intro tokens plain dashed
  have hdash : ∀ token ∈ tokens, token.head? ≠ some '-' := by decide
  have hnames : ∀ token ∈ tokens, ∀ text, ∀ name : FlagName,
      text.map Char.toLower = name.text → token ≠ text ++ [':'] := by
    have hend : ∀ token ∈ tokens, token.getLast? ≠ some ':' := by decide
    rintro _ htoken text name _ rfl
    exact hend _ htoken List.getLast?_concat
  have hplain : Extraction.ofTokens tokens = ⟨[⟨"\"a b\"".toList, false⟩,
      ⟨"#rust".toList, false⟩, ⟨"c*".toList, false⟩], [⟨.title, "x".toList, false⟩]⟩ := by
    decide +kernel
  have hbuckets : Buckets.ofWords (Extraction.ofTokens tokens).words =
      ⟨⟨"\"a b\" c*".toList, []⟩, ⟨"rust".toList, []⟩⟩ := by
    decide +kernel
  obtain ⟨_, _, hwords, hflags, hexchange⟩ := dash_excludes.2 tokens hdash hnames
  rw [hbuckets] at hexchange
  rw [hplain] at hwords hflags
  exact ⟨hdash, congrArg Extraction.words hplain, congrArg Extraction.flags hplain, hwords, hflags,
    hexchange⟩

end ForumQuery
