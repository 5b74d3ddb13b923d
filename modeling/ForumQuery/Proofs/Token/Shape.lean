import ForumQuery.Proofs.Token.Pieces
import ForumQuery.Query

/-!
# The shape of tokens

There are three shapes of tokens: a bare word, a phrase, and an opened phrase that nothing closes.
`WellShaped` says which lists of them can be the tokens of a query, without speaking of queries. The
tokens of every query are such a list, and `tokens_joined_iff` says that the lists of this shape are
just those that come back when they are joined by spaces. So a query may be spaced anew outside of
its phrases, and asks for the same.
-/

namespace ForumQuery.Token

/-- A token without blanks and quotes. -/
def IsBare (token : Text) : Prop :=
  token ≠ [] ∧ ∀ c ∈ token, Text.isBlank c = false ∧ c ≠ '"'

/-- A text between quotes, with or without a dash in front. -/
def IsPhrase (token : Text) : Prop :=
  ∃ excluded text, '"' ∉ text ∧ token = Flag.sign excluded ++ Text.quoted text

/-- A quote with no second one, and text behind it that has no blanks, with or without a dash in
front. -/
def IsOpened (token : Text) : Prop :=
  ∃ excluded text, (∀ c ∈ text, Text.isBlank c = false ∧ c ≠ '"') ∧
    token = Flag.sign excluded ++ '"' :: text

/-- Bare words and phrases in any order, and then perhaps an opened phrase with only bare words
behind it. -/
inductive WellShaped : List Text → Prop where
  | nil : WellShaped []
  | bare (token rest) : IsBare token → WellShaped rest → WellShaped (token :: rest)
  | phrase (token rest) : IsPhrase token → WellShaped rest → WellShaped (token :: rest)
  | opened (token rest) :
      IsOpened token → (∀ later ∈ rest, IsBare later) → WellShaped (token :: rest)

/-- The words of a text without quotes are bare. -/
theorem bare_of_mem_words {text word : Text} (hfree : '"' ∉ text) (h : word ∈ Text.words text) :
    IsBare word := by
  obtain ⟨hne, hchars⟩ := Text.mem_words h
  refine ⟨hne, fun c hc => ⟨(hchars c hc).1, ?_⟩⟩
  rintro rfl
  exact hfree (hchars '"' hc).2

/-- Bare words may stand in front. -/
theorem WellShaped.append_bare {front back : List Text} (hfront : ∀ token ∈ front, IsBare token)
    (hback : WellShaped back) : WellShaped (front ++ back) := by
  induction front with
  | nil => exact hback
  | cons token front ih =>
      rw [List.forall_mem_cons] at hfront
      exact .bare token _ hfront.1 (ih hfront.2)

/-- Every one of well-shaped tokens has one of the three shapes. -/
theorem WellShaped.mem {texts : List Text} (h : WellShaped texts) {token : Text}
    (hmem : token ∈ texts) : IsBare token ∨ IsPhrase token ∨ IsOpened token := by
  induction h with
  | nil => cases hmem
  | bare first rest hbare _ ih =>
      cases hmem with
      | head => exact Or.inl hbare
      | tail _ hrest => exact ih hrest
  | phrase first rest hphrase _ ih =>
      cases hmem with
      | head => exact Or.inr (Or.inl hphrase)
      | tail _ hrest => exact ih hrest
  | opened first rest hopened hbare =>
      cases hmem with
      | head => exact Or.inr (Or.inr hopened)
      | tail _ hrest => exact Or.inl (hbare token hrest)

/-- A quote stands at the front of its token, but for a dash. -/
theorem WellShaped.quote_in_front {texts : List Text} (h : WellShaped texts) {token : Text}
    (hmem : token ∈ texts) (hquote : '"' ∈ token) :
    ∃ excluded text, token = Flag.sign excluded ++ '"' :: text := by
  obtain hbare | ⟨excluded, text, _, htoken⟩ | ⟨excluded, text, _, htoken⟩ := h.mem hmem
  · exact absurd rfl (hbare.2 '"' hquote).2
  · exact ⟨excluded, text ++ ['"'], htoken⟩
  · exact ⟨excluded, text, htoken⟩

/-- Tokens may be left out. -/
theorem WellShaped.sublist {texts part : List Text} (h : WellShaped texts)
    (hpart : part.Sublist texts) : WellShaped part := by
  induction h generalizing part with
  | nil =>
      cases hpart
      exact .nil
  | bare token rest hbare _ ih =>
      cases hpart with
      | cons _ hpart => exact ih hpart
      | cons_cons _ hpart => exact .bare token _ hbare (ih hpart)
  | phrase token rest hphrase _ ih =>
      cases hpart with
      | cons _ hpart => exact ih hpart
      | cons_cons _ hpart => exact .phrase token _ hphrase (ih hpart)
  | opened token rest hopened hbare =>
      cases hpart with
      | cons _ hpart =>
          simpa using WellShaped.append_bare (fun later hlater => hbare later (hpart.mem hlater)) .nil
      | cons_cons _ hpart =>
          exact .opened token _ hopened fun later hlater => hbare later (hpart.mem hlater)

theorem exists_dash_eq_sign (lead : Text) : ∃ excluded, dash lead = Flag.sign excluded :=
  ⟨decide (lead.getLast? = some '-'), by simp [dash, Flag.sign]⟩

/-- What loose text leaves before a quote has no quote either. -/
theorem quote_free_before_dash {lead : Text} (hlead : '"' ∉ lead) : '"' ∉ beforeDash lead := by
  rw [← before_dash_append_dash lead, List.mem_append, not_or] at hlead
  exact hlead.1

/-- A quote and the dash in front of it hold together. -/
theorem unbroken_sign (excluded : Bool) :
    ∀ c ∈ Flag.sign excluded ++ ['"'], Text.isBlank c = false := by
  have hall : ((Flag.sign excluded ++ ['"']).all fun c => !Text.isBlank c) = true := by
    cases excluded <;> decide
  simpa using List.all_eq_true.1 hall

/-- The words of a phrase that nothing closes are an opened phrase and bare words. -/
theorem well_shaped_opened (excluded : Bool) {text : Text} (hfree : '"' ∉ text) :
    WellShaped (Text.words (Flag.sign excluded ++ '"' :: text)) := by
  have hquote : ∀ c ∈ text, c ≠ '"' := by
    rintro c hc rfl
    exact hfree hc
  -- The quote keeps the dash and the text up to the first blank together.
  obtain ⟨tail, later, hwords, htail, hlater⟩ :=
    Text.words_run_append (by simp) (unbroken_sign excluded) text
  rw [← List.singleton_append, ← List.append_assoc, hwords, List.append_assoc]
  refine .opened _ later ⟨excluded, tail, fun c hc => ?_, rfl⟩ fun word hword => ?_
  · exact ⟨(htail c hc).1, hquote c (htail c hc).2⟩
  · obtain ⟨hne, hchars⟩ := hlater word hword
    exact ⟨hne, fun c hc => ⟨(hchars c hc).1, hquote c (hchars c hc).2⟩⟩

/-- The tokens of pieces without quotes are well shaped. -/
theorem well_shaped_of_pieces {texts : List Text} (hfree : ∀ text ∈ texts, '"' ∉ text) :
    WellShaped (ofPieces texts) := by
  fun_induction ofPieces texts with
  | case1 => exact .nil
  | case2 loose =>
      have hwords : ∀ word ∈ Text.words loose, IsBare word :=
        fun _ => bare_of_mem_words (hfree loose List.mem_cons_self)
      simpa using WellShaped.append_bare hwords .nil
  | case3 lead opened =>
      have hlead := quote_free_before_dash (hfree lead (by simp))
      have hopened : '"' ∉ opened := hfree opened (by simp)
      obtain ⟨excluded, hdash⟩ := exists_dash_eq_sign lead
      rw [hdash]
      exact .append_bare (fun _ => bare_of_mem_words hlead) (well_shaped_opened excluded hopened)
  | case4 lead phrase next rest ih =>
      have hlead := quote_free_before_dash (hfree lead (by simp))
      have hphrase : '"' ∉ phrase := hfree phrase (by simp)
      have hrest := ih fun text htext =>
        hfree text (List.mem_cons_of_mem _ (List.mem_cons_of_mem _ htext))
      obtain ⟨excluded, hdash⟩ := exists_dash_eq_sign lead
      rw [hdash]
      exact .append_bare (fun _ => bare_of_mem_words hlead)
        (.phrase _ _ ⟨excluded, phrase, hphrase, rfl⟩ hrest)

/-- The tokens of every query are well shaped. -/
theorem well_shaped_tokens (query : Text) : WellShaped (tokens query) := by
  have hshaped := well_shaped_of_pieces (pieces_quote_free query)
  rwa [← tokens_intercalate (pieces_quote_free query), intercalate_pieces] at hshaped

/-- A bare word is closed, and is its only token. -/
theorem IsBare.token {token : Text} (h : IsBare token) :
    IsClosed token ∧ tokens token = [token] := by
  have hfree : '"' ∉ token := fun hquote => (h.2 '"' hquote).2 rfl
  exact ⟨closed_of_quote_free hfree, tokens_bare h.1 hfree fun c hc => (h.2 c hc).1⟩

/-- A phrase is closed, and is its only token. -/
theorem IsPhrase.token {token : Text} (h : IsPhrase token) :
    IsClosed token ∧ tokens token = [token] := by
  obtain ⟨excluded, text, hfree, rfl⟩ := h
  exact ⟨closed_of_quoted (Flag.quote_free_sign excluded) hfree,
    tokens_signed_phrase hfree excluded⟩

/-- An opened phrase is unbroken. -/
theorem IsOpened.unbroken {token : Text} (h : IsOpened token) :
    token ≠ [] ∧ ∀ c ∈ token, Text.isBlank c = false := by
  obtain ⟨excluded, text, htext, rfl⟩ := h
  refine ⟨by simp, fun c hc => ?_⟩
  rw [← List.singleton_append, ← List.append_assoc, List.mem_append] at hc
  exact hc.elim (unbroken_sign excluded c) fun hc => (htext c hc).1

/-- Behind an opened phrase the words come back that stand there. -/
theorem IsOpened.tokens_joined {token : Text} (h : IsOpened token) {rest : List Text}
    (hrest : ∀ later ∈ rest, IsBare later) :
    tokens (Text.joined (token :: rest)) = token :: rest := by
  have hwords : ∀ word ∈ token :: rest, word ≠ [] ∧ ∀ c ∈ word, Text.isBlank c = false := by
    rw [List.forall_mem_cons]
    refine ⟨h.unbroken, fun later hlater => ?_⟩
    exact ⟨(hrest later hlater).1, fun c hc => ((hrest later hlater).2 c hc).1⟩
  obtain ⟨excluded, text, htext, rfl⟩ := h
  have hsign := Flag.quote_free_sign excluded
  have hfree : '"' ∉ text ++ rest.flatMap fun later => ' ' :: later := by
    simp only [List.mem_append, List.mem_flatMap, List.mem_cons]
    rintro (hquote | ⟨later, hlater, hspace | hquote⟩)
    · exact (htext '"' hquote).2 rfl
    · exact absurd hspace (by decide)
    · exact ((hrest later hlater).2 '"' hquote).2 rfl
  have hjoined : Text.joined ((Flag.sign excluded ++ '"' :: text) :: rest) =
      Flag.sign excluded ++ '"' :: (text ++ rest.flatMap fun later => ' ' :: later) := by
    rw [Text.joined_cons, List.append_assoc, List.cons_append]
  have hdash : Text.words (beforeDash (Flag.sign excluded)) = [] ∧
      dash (Flag.sign excluded) = Flag.sign excluded := by
    cases excluded <;> decide
  -- Nothing stands before the quote but its own dash, so all the text is split as if it were loose.
  rw [hjoined, tokens_opened hsign hfree, hdash.1, hdash.2, ← hjoined, Text.words_joined hwords,
    List.nil_append]

/-- Well-shaped tokens come back when they are joined by spaces. -/
theorem WellShaped.tokens_joined {texts : List Text} (h : WellShaped texts) :
    tokens (Text.joined texts) = texts := by
  induction h with
  | nil => rfl
  | bare token rest hbare _ ih =>
      rw [tokens_joined_cons hbare.token.1, hbare.token.2, ih, List.singleton_append]
  | phrase token rest hphrase _ ih =>
      rw [tokens_joined_cons hphrase.token.1, hphrase.token.2, ih, List.singleton_append]
  | opened token rest hopened hrest => exact hopened.tokens_joined hrest

/-- The tokens of every query are well shaped, the lists of this shape are just those that come
back when they are joined by spaces, and a query that is put together anew from its tokens has the
records that it had. -/
theorem tokens_joined_iff :
    (∀ query, WellShaped (tokens query)) ∧
    (∀ texts, tokens (Text.joined texts) = texts ↔ WellShaped texts) ∧
    ∀ query offset, Query.parse (Text.joined (tokens query)) offset = Query.parse query offset := by
  refine ⟨well_shaped_tokens, fun texts => ⟨fun h => ?_, WellShaped.tokens_joined⟩, ?_⟩
  · rw [← h]
    exact well_shaped_tokens _
  · intro query offset
    have hsame := (well_shaped_tokens query).tokens_joined
    simp only [Query.parse, Query.read, hsame]

example : Text.joined (tokens "a-\"\"  \"b  c\"d -\"e  f".toList) =
    "a -\"\" \"b  c\" d -\"e f".toList := by
  decide

end ForumQuery.Token
