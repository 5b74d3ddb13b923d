import ForumQuery.Proofs.Extraction.Heads
import ForumQuery.Proofs.Token.Scanner

/-!
# Cutting a query

A blank outside of phrases cuts a query into two that are read apart (`tokens_append_blank`), so
texts with all their phrases closed, joined by spaces, have the tokens of each (`tokens_joined`).
So does the second quote of a phrase (`tokens_phrase`). What neither cuts is loose text or has one
quote that is not closed; `tokens_loose` and `tokens_opened` give the tokens of both.
-/

namespace ForumQuery.Token

/-- All phrases of the text are closed. -/
def IsClosed (text : Text) : Prop :=
  text.count '"' % 2 = 0

/-- Text without quotes closes its phrases: it has none. -/
theorem closed_of_quote_free {text : Text} (hfree : '"' ∉ text) : IsClosed text := by
  rw [IsClosed, List.count_eq_zero.2 hfree]

/-- A text between quotes is closed, whatever stands before it. -/
theorem closed_of_quoted {lead text : Text} (hlead : '"' ∉ lead) (hfree : '"' ∉ text) :
    IsClosed (lead ++ text.quoted) := by
  simp [IsClosed, Text.quoted, List.count_eq_zero.2 hlead, List.count_eq_zero.2 hfree]

/-- Loose text without quotes is held. -/
theorem tokens_from_loose {text : Text} (hfree : '"' ∉ text) (held rest : Text) :
    tokensFrom (.loose held) (text ++ rest) = tokensFrom (.loose (held ++ text)) rest := by
  induction text generalizing held with
  | nil => simp
  | cons c text ih =>
      simp only [List.mem_cons, not_or] at hfree
      rw [List.cons_append, tokensFrom, if_neg (Ne.symm hfree.1), ih hfree.2]
      simp

/-- The text of a phrase is held until its quote. -/
theorem tokens_from_phrase {text : Text} (hfree : '"' ∉ text) (held rest : Text) :
    tokensFrom (.phrase held) (text ++ rest) = tokensFrom (.phrase (held ++ text)) rest := by
  induction text generalizing held with
  | nil => simp
  | cons c text ih =>
      simp only [List.mem_cons, not_or] at hfree
      rw [List.cons_append, tokensFrom, if_neg (Ne.symm hfree.1), ih hfree.2]
      simp

/-- A blank does not end the text that a dash before a quote could stand in. -/
theorem dash_append_blank {c : Char} (hc : Text.isBlank c = true) (front back : Text) :
    beforeDash (front ++ c :: back) = front ++ c :: beforeDash back ∧
      dash (front ++ c :: back) = dash back := by
  have hdash : c ≠ '-' := by
    rintro rfl
    revert hc
    decide
  unfold beforeDash dash
  cases back with
  | nil => simp [hdash]
  | cons d back =>
      have hlast : (front ++ c :: d :: back).getLast? = (d :: back).getLast? := by
        simp [List.getLast?_cons]
      rw [hlast]
      split <;> simp

/-- What stands before a blank in loose text is split at once. -/
theorem tokens_from_loose_blank {c : Char} (hc : Text.isBlank c = true) (rest front back : Text) :
    tokensFrom (.loose (front ++ c :: back)) rest =
      Text.words front ++ tokensFrom (.loose back) rest := by
  induction rest generalizing back with
  | nil => exact Text.words_append_blank_cons hc front back
  | cons d rest ih =>
      rw [tokensFrom, tokensFrom]
      split
      · rw [(dash_append_blank hc front back).1, (dash_append_blank hc front back).2,
          Text.words_append_blank_cons hc, List.append_assoc]
      · rw [← ih (back ++ [d])]
        simp

/-- After a closed text, or inside a phrase after a text that closes it, a blank cuts. -/
theorem tokens_from_append_blank {c : Char} (hc : Text.isBlank c = true) (rest text held : Text) :
    (text.count '"' % 2 = 0 → tokensFrom (.loose held) (text ++ c :: rest) =
      tokensFrom (.loose held) text ++ tokensFrom (.loose []) rest) ∧
    (text.count '"' % 2 = 1 → tokensFrom (.phrase held) (text ++ c :: rest) =
      tokensFrom (.phrase held) text ++ tokensFrom (.loose []) rest) := by
  have hquote : c ≠ '"' := by
    rintro rfl
    revert hc
    decide
  induction text generalizing held with
  | nil =>
      refine ⟨fun _ => ?_, fun h => absurd h (by simp)⟩
      rw [List.nil_append, tokensFrom, tokensFrom, if_neg hquote]
      exact tokens_from_loose_blank hc rest held []
  | cons d text ih =>
      by_cases hd : d = '"'
      · subst hd
        simp only [List.cons_append, tokensFrom, if_true, List.count_cons_self]
        constructor
        · intro heven
          rw [(ih (dash held ++ ['"'])).2 (by omega), List.append_assoc]
        · intro hodd
          rw [(ih []).1 (by omega)]
      · simp only [List.cons_append, tokensFrom, hd, if_false, List.count_cons_of_ne hd]
        exact ih (held ++ [d])

/-- A blank after a closed text cuts a query into two that are read apart. -/
theorem tokens_append_blank {front : Text} (hclosed : IsClosed front) {c : Char}
    (hc : Text.isBlank c = true) (back : Text) :
    tokens (front ++ c :: back) = tokens front ++ tokens back := by
  rw [tokens_eq, tokens_eq, tokens_eq]
  exact (tokens_from_append_blank hc back front []).1 hclosed

/-- A closed text is read apart from those that it is joined to. -/
theorem tokens_joined_cons {text : Text} (hclosed : IsClosed text) (texts : List Text) :
    tokens (Text.joined (text :: texts)) = tokens text ++ tokens (Text.joined texts) := by
  cases texts with
  | nil => simp [Text.joined, tokens_eq, tokensFrom, Text.words_nil]
  | cons next texts => rw [Text.joined_cons_cons, tokens_append_blank hclosed (by decide)]

/-- Closed texts joined by spaces have the tokens of each. -/
theorem tokens_joined {texts : List Text} (hclosed : ∀ text ∈ texts, IsClosed text) :
    tokens (Text.joined texts) = texts.flatMap tokens := by
  induction texts with
  | nil => rfl
  | cons text texts ih =>
      have hrest := ih fun other hother => hclosed other (List.mem_cons_of_mem _ hother)
      rw [tokens_joined_cons (hclosed text List.mem_cons_self), hrest, List.flatMap_cons]

/-- Text without quotes splits at blanks. -/
theorem tokens_loose {text : Text} (hfree : '"' ∉ text) : tokens text = Text.words text := by
  have hloose := tokens_from_loose hfree [] []
  rw [List.append_nil] at hloose
  rw [tokens_eq, hloose]
  rfl

/-- A text without blanks and quotes is one token. -/
theorem tokens_bare {text : Text} (hne : text ≠ []) (hfree : '"' ∉ text)
    (hblank : ∀ c ∈ text, Text.isBlank c = false) : tokens text = [text] := by
  rw [tokens_loose hfree, Text.words_of_no_blank hblank hne]

/-- Before a phrase, all but a dash at the end splits at blanks; the phrase is one token; and what
stands behind it is read on its own. -/
theorem tokens_phrase {lead text : Text} (hlead : '"' ∉ lead) (hfree : '"' ∉ text) (rest : Text) :
    tokens (lead ++ '"' :: (text ++ '"' :: rest)) =
      Text.words (beforeDash lead) ++ (dash lead ++ '"' :: (text ++ ['"'])) :: tokens rest := by
  rw [tokens_eq, tokens_eq, tokens_from_loose hlead, tokensFrom, if_pos rfl,
    tokens_from_phrase hfree, tokensFrom, if_pos rfl]
  simp

/-- A phrase with nothing behind it ends the query. -/
theorem tokens_quoted {lead text : Text} (hlead : '"' ∉ lead) (hfree : '"' ∉ text) :
    tokens (lead ++ '"' :: (text ++ ['"'])) =
      Text.words (beforeDash lead) ++ [dash lead ++ '"' :: (text ++ ['"'])] :=
  tokens_phrase hlead hfree []

/-- A phrase is one token, with or without a dash in front. -/
theorem tokens_signed_phrase {text : Text} (hfree : '"' ∉ text) (excluded : Bool) :
    tokens (Flag.sign excluded ++ text.quoted) = [Flag.sign excluded ++ text.quoted] := by
  rw [Text.quoted, tokens_quoted (Flag.quote_free_sign excluded) hfree]
  cases excluded <;> rfl

/-- A quote that is not closed parts the dash before it from what stands before that, and nothing
else. -/
theorem tokens_opened {lead text : Text} (hlead : '"' ∉ lead) (hfree : '"' ∉ text) :
    tokens (lead ++ '"' :: text) =
      Text.words (beforeDash lead) ++ Text.words (dash lead ++ '"' :: text) := by
  have hphrase := tokens_from_phrase hfree (dash lead ++ ['"']) []
  rw [List.append_nil] at hphrase
  rw [tokens_eq, tokens_from_loose hlead, tokensFrom, if_pos rfl, List.nil_append, hphrase]
  simp [tokensFrom]

end ForumQuery.Token
