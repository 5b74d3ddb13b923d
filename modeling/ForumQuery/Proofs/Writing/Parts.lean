import ForumQuery.Proofs.Extraction.Appending
import ForumQuery.Proofs.Extraction.Strip
import ForumQuery.Proofs.Token.Cutting
import Mathlib.Data.List.Basic

/-!
# Parts of a query that are read apart

A text that closes its phrases and does not end with a flag without a value is read apart from what
stands around it, so a query that is joined from such texts is read part by part
(`of_tokens_joined`). The parts that queries are written from are four: a loose word, a phrase, and
a flag whose value is loose or a phrase.
-/

namespace ForumQuery.Writing

/-- The text is read as the extraction, and apart from what follows it after a blank. -/
structure ReadsAs (text : Text) (extraction : Extraction) : Prop where
  closed : Token.IsClosed text
  settled : ∀ token, (Token.tokens text).getLast? = some token → ¬ Flag.IsValueless token
  read : Extraction.ofTokens (Token.tokens text) = extraction

/-- It is enough to know the tokens and that the last of them is no flag without a value. -/
theorem ReadsAs.of_tokens (front : List Text) {text last : Text} {extraction : Extraction}
    (hclosed : Token.IsClosed text) (htokens : Token.tokens text = front ++ [last])
    (hlast : ¬ Flag.IsValueless last) (hread : Extraction.ofTokens (front ++ [last]) = extraction) :
    ReadsAs text extraction := by
  refine ⟨hclosed, fun token h => ?_, by rw [htokens, hread]⟩
  rw [htokens, List.getLast?_concat] at h
  rwa [← Option.some.inj h]

/-- Parts joined by spaces are read one by one. -/
theorem of_tokens_joined {α : Type} {parts : List α} {text : α → Text} {extraction : α → Extraction}
    (hparts : ∀ part ∈ parts, ReadsAs (text part) (extraction part)) :
    Extraction.ofTokens (Token.tokens (Text.joined (parts.map text))) =
      ⟨parts.flatMap fun part => (extraction part).words,
        parts.flatMap fun part => (extraction part).flags⟩ := by
  have hclosed : ∀ piece ∈ parts.map text, Token.IsClosed piece := by
    intro piece hpiece
    obtain ⟨part, hpart, rfl⟩ := List.mem_map.1 hpiece
    exact (hparts part hpart).closed
  have hsettled := fun part hpart => (hparts part hpart).settled
  rw [Token.tokens_joined hclosed, List.flatMap_map, Extraction.of_tokens_flat_map hsettled]
  congr 1
  · exact List.flatMap_congr fun part hpart => by rw [(hparts part hpart).read]
  · exact List.flatMap_congr fun part hpart => by rw [(hparts part hpart).read]

variable {text : Text}

/-- A loose text that is kept and no flag is read as a word. -/
theorem reads_word (hne : text ≠ []) (hblank : ∀ c ∈ text, Text.isBlank c = false)
    (hfree : '"' ∉ text) (hkept : Word.strip text = text)
    (hname : ':' ∈ text → FlagName.read? (text.takeWhile (· ≠ ':')) = none) (excluded : Bool) :
    ReadsAs (Flag.sign excluded ++ text) ⟨[⟨text, excluded⟩], []⟩ := by
  have htoken : Token.tokens (Flag.sign excluded ++ text) = [Flag.sign excluded ++ text] := by
    apply Token.tokens_bare
    · simp [hne]
    · cases excluded <;> simp [Flag.sign, hfree]
    · cases excluded
      · simpa [Flag.sign] using hblank
      · simpa [Flag.sign] using ⟨by decide, hblank⟩
  have hhead := Flag.head_signed_eq_none (Word.head_ne_dash hkept) hname excluded
  refine ReadsAs.of_tokens [] ?_ htoken (Flag.not_valueless_of_head_none hhead) ?_
  · exact Token.closed_of_quote_free (by cases excluded <;> simp [Flag.sign, hfree])
  · rw [List.nil_append, Extraction.of_tokens_word hhead, Extraction.addToken,
      Word.of_token_signed hne hkept]
    rfl

/-- A phrase is read as a word, quotes included. -/
theorem reads_phrase (hfree : '"' ∉ text) (excluded : Bool) :
    ReadsAs (Flag.sign excluded ++ text.quoted) ⟨[⟨text.quoted, excluded⟩], []⟩ := by
  have hhead : Flag.head? (Flag.sign excluded ++ text.quoted) = none :=
    Flag.head_of_quote excluded _
  have hne : text.quoted ≠ [] := List.cons_ne_nil _ _
  refine ReadsAs.of_tokens [] (Token.closed_of_quoted (Flag.quote_free_sign excluded) hfree)
    (Token.tokens_signed_phrase hfree excluded)
    (Flag.not_valueless_of_head_none hhead) ?_
  rw [List.nil_append, Extraction.of_tokens_word hhead, Extraction.addToken,
    Word.of_token_signed hne (Word.strip_phrase text)]
  rfl

/-- A flag with a phrase behind its colon has the text of the phrase as its value. -/
theorem reads_quoted_flag (name : FlagName) (hfree : '"' ∉ text) (excluded : Bool) :
    ReadsAs (Flag.sign excluded ++ name.text ++ ':' :: text.quoted)
      ⟨[], [⟨name, text, excluded⟩]⟩ := by
  have hlead : '"' ∉ Flag.sign excluded ++ name.text ++ [':'] := by
    cases excluded <;> cases name <;> decide
  have hsplit : Flag.sign excluded ++ name.text ++ ':' :: text.quoted =
      Flag.sign excluded ++ name.text ++ [':'] ++ text.quoted := by
    simp
  have htokens : Token.tokens (Flag.sign excluded ++ name.text ++ [':'] ++ text.quoted) =
      [Flag.sign excluded ++ name.text ++ [':'], text.quoted] := by
    have hbefore : Text.words (Token.beforeDash (Flag.sign excluded ++ name.text ++ [':'])) =
        [Flag.sign excluded ++ name.text ++ [':']] := by
      cases excluded <;> cases name <;> decide
    -- The colon keeps a dash of the flag away from the phrase.
    have hdash : Token.dash (Flag.sign excluded ++ name.text ++ [':']) = [] := by
      cases excluded <;> cases name <;> decide
    rw [Text.quoted, Token.tokens_quoted hlead hfree, hbefore, hdash]
    rfl
  rw [hsplit]
  refine ReadsAs.of_tokens [_] (Token.closed_of_quoted hlead hfree) htokens
    (Flag.not_valueless_of_head_none (Flag.head_of_quote false _)) ?_
  have hhead := Flag.head_written name excluded []
  rw [List.singleton_append, Extraction.of_tokens_valueless hhead rfl, Flag.Head.flag,
    Flag.unquote_quoted]
  rfl

/-- A flag with a loose value has that value. -/
theorem reads_loose_flag (name : FlagName) (hne : text ≠ [])
    (hplain : ∀ c ∈ text, Text.isBlank c = false ∧ c ≠ '"') :
    ReadsAs (name.text ++ ':' :: text) ⟨[], [⟨name, text, false⟩]⟩ := by
  have hall : ∀ c ∈ name.text ++ ':' :: text, Text.isBlank c = false ∧ c ≠ '"' := by
    intro c hc
    rw [List.mem_append, List.mem_cons] at hc
    rcases hc with hname | rfl | htext
    · have hplain := FlagName.plain_of_mem_text hname
      exact ⟨hplain.1, hplain.2.1⟩
    · exact ⟨by decide, by decide⟩
    · exact hplain c htext
  have hfree : '"' ∉ name.text ++ ':' :: text := fun h => (hall '"' h).2 rfl
  have htoken : Token.tokens (name.text ++ ':' :: text) = [name.text ++ ':' :: text] :=
    Token.tokens_bare (by simp) hfree fun c hc => (hall c hc).1
  have hhead : Flag.head? (name.text ++ ':' :: text) = some ⟨name, false, text⟩ :=
    Flag.head_written name false text
  have hquote : text.head? ≠ some '"' :=
    fun h => (hplain '"' (List.mem_of_mem_head? h)).2 rfl
  have hvalue : ¬ Flag.IsValueless (name.text ++ ':' :: text) := by
    rintro ⟨head, hread, hsuffix⟩
    rw [hhead] at hread
    obtain rfl := Option.some.inj hread
    exact hne hsuffix
  refine ReadsAs.of_tokens [] (Token.closed_of_quote_free hfree) htoken hvalue ?_
  rw [List.nil_append, Extraction.of_tokens_flag hhead hne, Flag.Head.flag,
    Flag.unquote_bare hquote]
  rfl

end ForumQuery.Writing
