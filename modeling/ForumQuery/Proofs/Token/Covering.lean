import ForumQuery.Proofs.Token.Pieces

/-!
# Tokens cover the query

Nothing but blanks stands before, between and behind the tokens of a query. `Spaced` says this of a
list of tokens and a text, and `Spaced.append` that it may be shown part by part. For the whole
query it gives the gaps (`Spaced.gaps`), and with them the place of every token: each character that
is no blank lies in exactly one of them (`exists_unique_holds`).
-/

namespace ForumQuery.Token

/-- A text of blanks, or an empty one. -/
def IsGap (text : Text) : Prop :=
  ∀ c ∈ text, Text.isBlank c = true

/-- The gaps with the tokens between them. -/
def interleave : List Text → List Text → Text
  | gap :: gaps, token :: tokens => gap ++ token ++ interleave gaps tokens
  | gaps, [] => gaps.flatten
  | [], tokens => tokens.flatten

/-- Where a token begins: behind all gaps and tokens before it. -/
def start (gaps tokens : List Text) (index : Nat) : Nat :=
  (interleave (gaps.take (index + 1)) (tokens.take index)).length

/-- The token of this index reaches over the position, and has the character there. -/
def Holds (gaps tokens : List Text) (index position : Nat) (c : Char) : Prop :=
  ∃ token, tokens[index]? = some token ∧ start gaps tokens index ≤ position ∧
    token[position - start gaps tokens index]? = some c

/-- `Spaced tokens text` says that the text has the tokens in order, and nothing but blanks around
them. -/
inductive Spaced : List Text → Text → Prop where
  | nil (gap) : IsGap gap → Spaced [] gap
  | cons (gap token tokens rest) :
      IsGap gap → Spaced tokens rest → Spaced (token :: tokens) (gap ++ token ++ rest)

theorem gap_append {front back : Text} (hfront : IsGap front) (hback : IsGap back) :
    IsGap (front ++ back) := by
  intro c hc
  exact (List.mem_append.1 hc).elim (hfront c) (hback c)

/-- A token alone. -/
theorem Spaced.single (token : Text) : Spaced [token] token := by
  simpa using Spaced.cons [] token [] [] (by simp [IsGap]) (.nil [] (by simp [IsGap]))

/-- Blanks in front change no token. -/
theorem Spaced.gap {gap text : Text} {tokens : List Text} (hgap : IsGap gap)
    (h : Spaced tokens text) : Spaced tokens (gap ++ text) := by
  cases h with
  | nil _ hrest => exact .nil _ (gap_append hgap hrest)
  | cons first token later rest hfirst hrest =>
      rw [← List.append_assoc, ← List.append_assoc]
      exact .cons _ token later rest (gap_append hgap hfirst) hrest

/-- Texts one after the other have the tokens of both. -/
theorem Spaced.append {front back : Text} {tokens later : List Text} (hfront : Spaced tokens front)
    (hback : Spaced later back) : Spaced (tokens ++ later) (front ++ back) := by
  induction hfront with
  | nil gap hgap => exact hback.gap hgap
  | cons gap token tokens rest hgap _ ih =>
      rw [List.append_assoc]
      exact .cons gap token _ _ hgap ih

/-- A text without blanks is its own word. -/
theorem spaced_run {run : Text} (hrun : ∀ c ∈ run, Text.isBlank c = false) :
    Spaced (Text.words run) run := by
  rw [Text.words_run hrun]
  split
  · next hempty =>
      rw [hempty]
      exact .nil [] (by simp [IsGap])
  · exact .single run

/-- Around the words of a text there are only blanks. -/
theorem spaced_words (text : Text) : Spaced (Text.words text) text := by
  induction text using Text.blank_induction with
  | run text hrun => exact spaced_run hrun
  | cut front c back hfront hc ih =>
      have hgap : IsGap [c] := by simpa [IsGap] using hc
      rw [Text.words_append_blank_cons hc]
      exact (spaced_run hfront).append (ih.gap hgap)

/-- A quote takes nothing from the loose text before it but the dash. -/
theorem spaced_before_dash (lead : Text) {text : Text} {tokens : List Text}
    (h : Spaced tokens (dash lead ++ text)) :
    Spaced (Text.words (beforeDash lead) ++ tokens) (lead ++ text) := by
  have happend := (spaced_words (beforeDash lead)).append h
  rwa [← List.append_assoc, before_dash_append_dash] at happend

/-- Around the tokens of pieces there are only blanks. -/
theorem spaced_of_pieces (texts : List Text) :
    Spaced (ofPieces texts) (List.intercalate ['"'] texts) := by
  fun_induction ofPieces texts with
  | case1 => exact .nil [] (by simp [IsGap])
  | case2 loose =>
      rw [List.intercalate_singleton]
      exact spaced_words loose
  | case3 lead opened =>
      rw [List.intercalate_cons_cons, List.intercalate_singleton, List.append_assoc]
      exact spaced_before_dash lead (spaced_words _)
  | case4 lead phrase next rest ih =>
      have hphrase := (Spaced.single (dash lead ++ '"' :: (phrase ++ ['"']))).append ih
      rw [List.append_assoc] at hphrase
      rw [List.intercalate_cons_cons, List.intercalate_cons_cons, List.append_assoc]
      simpa using spaced_before_dash lead hphrase

/-- The tokens of a query stand in it with nothing but blanks around them. -/
theorem spaced_tokens (query : Text) : Spaced (tokens query) query := by
  have hspaced := spaced_of_pieces (pieces query)
  rwa [← tokens_intercalate (pieces_quote_free query), intercalate_pieces] at hspaced

/-- A test that blanks fail keeps of a text what it keeps of its tokens. -/
theorem Spaced.filter {test : Char → Bool}
    (hblank : ∀ c, Text.isBlank c = true → test c = false) {tokens : List Text} {text : Text}
    (h : Spaced tokens text) : text.filter test = tokens.flatten.filter test := by
  have hgap : ∀ gap, IsGap gap → gap.filter test = [] := by
    intro gap hgap
    rw [List.filter_eq_nil_iff]
    intro c hc
    simp [hblank c (hgap c hc)]
  induction h with
  | nil gap h => exact hgap gap h
  | cons gap token tokens rest h _ ih =>
      rw [List.filter_append, List.filter_append, hgap gap h, List.nil_append, List.flatten_cons,
        List.filter_append, ih]

/-- The gaps around the tokens, one after the other. -/
theorem Spaced.gaps {tokens : List Text} {text : Text} (h : Spaced tokens text) :
    ∃ gaps : List Text, gaps.length = tokens.length + 1 ∧ (∀ gap ∈ gaps, IsGap gap) ∧
      interleave gaps tokens = text := by
  induction h with
  | nil gap hgap => exact ⟨[gap], rfl, by simpa using hgap, by simp [interleave]⟩
  | cons gap token tokens rest hgap _ ih =>
      obtain ⟨gaps, hlength, hgaps, hrest⟩ := ih
      refine ⟨gap :: gaps, by simp [hlength], ?_, by rw [interleave, hrest]⟩
      exact List.forall_mem_cons.2 ⟨hgap, hgaps⟩

section

variable {gap token : Text} {gaps tokens : List Text} {index position : Nat} {c : Char}

/-- The first token has what stands behind the first gap. -/
theorem holds_zero :
    Holds (gap :: gaps) (token :: tokens) 0 position c ↔
      gap.length ≤ position ∧ token[position - gap.length]? = some c := by
  simp [Holds, start, interleave]

/-- A later token has what it has in the text behind the first one. -/
theorem holds_succ :
    Holds (gap :: gaps) (token :: tokens) (index + 1) position c ↔
      gap.length + token.length ≤ position ∧
        Holds gaps tokens index (position - (gap.length + token.length)) c := by
  have hstart : start (gap :: gaps) (token :: tokens) (index + 1) =
      gap.length + token.length + start gaps tokens index := by
    simp [start, interleave, Nat.add_assoc]
  simp only [Holds, hstart, List.getElem?_cons_succ, Nat.sub_sub]
  constructor
  · rintro ⟨found, hfound, hle, hc⟩
    exact ⟨by omega, found, hfound, by omega, hc⟩
  · rintro ⟨hfirst, found, hfound, hle, hc⟩
    exact ⟨found, hfound, by omega, hc⟩

/-- A character that is no blank lies in exactly one token. -/
theorem exists_unique_holds (hlength : gaps.length = tokens.length + 1)
    (hgaps : ∀ gap ∈ gaps, IsGap gap) (hchar : (interleave gaps tokens)[position]? = some c)
    (hc : Text.isBlank c = false) : ∃! index, Holds gaps tokens index position c := by
  have hvisible : ∀ gap ∈ gaps, c ∉ gap := by
    intro gap hgap hmem
    rw [hgaps gap hgap c hmem] at hc
    exact absurd hc (by decide)
  induction tokens generalizing gaps position with
  | nil =>
      obtain ⟨gap, rfl⟩ := List.length_eq_one_iff.1 hlength
      refine absurd (List.mem_of_getElem? hchar) ?_
      simpa [interleave] using hvisible
  | cons token tokens ih =>
      cases gaps with
      | nil => simp at hlength
      | cons gap gaps =>
          rw [List.forall_mem_cons] at hgaps hvisible
          rw [interleave, List.append_assoc] at hchar
          -- The position lies in the first gap, in the first token, or behind both.
          rcases Nat.lt_or_ge position gap.length with hgap | hgap
          · rw [List.getElem?_append_left hgap] at hchar
            exact absurd (List.mem_of_getElem? hchar) hvisible.1
          rw [List.getElem?_append_right hgap] at hchar
          rcases Nat.lt_or_ge (position - gap.length) token.length with htoken | htoken
          · rw [List.getElem?_append_left htoken] at hchar
            refine ⟨0, holds_zero.2 ⟨hgap, hchar⟩, fun other hother => ?_⟩
            cases other with
            | zero => rfl
            | succ other =>
                have hbehind := (holds_succ.1 hother).1
                omega
          · rw [List.getElem?_append_right htoken, Nat.sub_sub] at hchar
            obtain ⟨index, hindex, hunique⟩ :=
              ih (by simpa using hlength) hgaps.2 hchar hvisible.2
            refine ⟨index + 1, holds_succ.2 ⟨by omega, hindex⟩, fun other hother => ?_⟩
            cases other with
            | zero =>
                obtain ⟨hlt, _⟩ := List.getElem?_eq_some_iff.1 (holds_zero.1 hother).2
                omega
            | succ other => rw [hunique other (holds_succ.1 hother).2]

end

/-- A query is its tokens in order with gaps of blanks before, between and behind them. So each of
its characters that is no blank lies in exactly one token. -/
theorem tokens_cover (query : Text) :
    ∃ gaps : List Text, gaps.length = (tokens query).length + 1 ∧ (∀ gap ∈ gaps, IsGap gap) ∧
      interleave gaps (tokens query) = query ∧
      ∀ position c, query[position]? = some c → Text.isBlank c = false →
        ∃! index, Holds gaps (tokens query) index position c := by
  have hspaced := spaced_of_pieces (pieces query)
  rw [← tokens_intercalate (pieces_quote_free query), intercalate_pieces] at hspaced
  obtain ⟨gaps, hlength, hgaps, hquery⟩ := hspaced.gaps
  refine ⟨gaps, hlength, hgaps, hquery, fun position c hchar hc => ?_⟩
  rw [← hquery] at hchar
  exact exists_unique_holds hlength hgaps hchar hc

/-- A dash between a word and a phrase that touch each other lies in one token only. -/
theorem tokens_cover_dash :
    let query := " a-\"b c\"d".toList
    tokens query = ["a".toList, "-\"b c\"".toList, "d".toList] ∧
      query[2]? = some '-' ∧ Text.isBlank '-' = false ∧
      ∃ gaps : List Text, gaps.length = 4 ∧ (∀ gap ∈ gaps, IsGap gap) ∧
        interleave gaps (tokens query) = query ∧
        ∃! index, Holds gaps (tokens query) index 2 '-' := by
  intro query
  have htokens : tokens query = ["a".toList, "-\"b c\"".toList, "d".toList] := by decide
  obtain ⟨gaps, hlength, hgaps, hquery, hplace⟩ := tokens_cover query
  rw [htokens] at hlength
  exact ⟨htokens, rfl, by decide, gaps, hlength, hgaps, hquery, hplace 2 '-' rfl (by decide)⟩

end ForumQuery.Token
