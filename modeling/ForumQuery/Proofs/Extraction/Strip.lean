import ForumQuery.Proofs.Extraction.Heads
import ForumQuery.Proofs.Extraction.Punctuation
import ForumQuery.Tag

/-!
# What stripping keeps

Phrases and tags are in normal form (`quoted_normal`, `IsProper.normal`), so stripping keeps them as
they are. `of_token_signed` says that a text that is kept is the value of its search word, with or
without a dash in front of it. Of any other token, stripping leaves at least the characters that are
never stripped (`filter_strip`).
-/

namespace ForumQuery

namespace Tag

/-- Two or more characters: a letter first, a letter or decimal digit last, and letters, decimal
digits and underscores between them. -/
def IsProper (name : Text) : Prop :=
  ∃ first middle last, name = first :: (middle ++ [last]) ∧
    Text.isLetter first = true ∧
    (∀ c ∈ middle, Text.isLetter c = true ∨ Text.isDecimalDigit c = true ∨ c = '_') ∧
    (Text.isLetter last = true ∨ Text.isDecimalDigit last = true)

/-- Names of tags are the proper ones. -/
theorem is_name_iff {name : Text} : isName name = true ↔ IsProper name := by
  constructor
  · intro h
    cases name with
    | nil => simp [isName] at h
    | cons first rest =>
        simp only [isName, Bool.and_eq_true, List.all_eq_true, Option.any_eq_true] at h
        obtain ⟨⟨hfirst, hall⟩, last, hlast, hend⟩ := h
        obtain ⟨middle, rfl⟩ := List.getLast?_eq_some_iff.1 hlast
        refine ⟨first, middle, last, rfl, hfirst, fun c hc => ?_, ?_⟩
        · simpa [isNameChar, or_assoc] using hall c (List.mem_append_left _ hc)
        · simpa [isLastChar] using hend
  · rintro ⟨first, middle, last, rfl, hfirst, hmiddle, hend⟩
    have hall : ∀ c ∈ middle ++ [last], isNameChar c = true := by
      intro c hc
      rw [List.mem_append, List.mem_singleton] at hc
      rcases hc with hc | rfl
      · simpa [isNameChar, or_assoc] using hmiddle c hc
      · rcases hend with h | h <;> simp [isNameChar, h]
    have hlast : isLastChar last = true := by simpa [isLastChar] using hend
    simp [isName, hfirst, List.all_eq_true.2 hall, hlast]

/-- A proper name begins with a letter, so with no hash. -/
theorem IsProper.head_ne_hash {name : Text} (h : IsProper name) : name.head? ≠ some '#' := by
  obtain ⟨first, middle, last, rfl, hfirst, _⟩ := h
  intro hhash
  rw [List.head?_cons, Option.some.injEq] at hhash
  subst hhash
  exact absurd hfirst (by decide +kernel)

/-- A hash and a proper name are in normal form. -/
theorem IsProper.normal {name : Text} (h : IsProper name) : Word.IsNormal ('#' :: name) := by
  have hhead := h.head_ne_hash
  obtain ⟨first, middle, last, rfl, _, _, hend⟩ := h
  refine ⟨⟨'#', _, rfl, Or.inr rfl⟩, ⟨'#' :: first :: middle, last, rfl, Or.inl ?_⟩, ?_⟩
  · exact hend.elim Or.inl fun h => Or.inr (Or.inl h)
  · intro rest hrest
    rw [(List.cons.inj hrest).2] at hhead
    exact hhead rfl

/-- A tag is kept, hash included. -/
theorem strip_tag {name : Text} (h : isName name = true) : Word.strip ('#' :: name) = '#' :: name :=
  (is_name_iff.1 h).normal.strip_eq

end Tag

namespace Word

theorem single_hash_sublist (text : Text) : (singleHash text).Sublist text := by
  unfold singleHash
  split
  · exact (List.dropWhile_sublist _).cons_cons _
  · exact List.Sublist.refl _

theorem drop_end_sublist (test : Char → Bool) (text : Text) :
    (Text.dropEndWhile test text).Sublist text :=
  (List.rdropWhile_prefix test text).sublist

/-- Stripping only leaves out. -/
theorem strip_sublist (token : Text) : (strip token).Sublist token :=
  (single_hash_sublist _).trans ((drop_end_sublist _ _).trans (List.dropWhile_sublist _))

/-- A dash in front is punctuation. -/
theorem strip_dash (token : Text) : strip ('-' :: token) = strip token := by
  have hdash : isFrontPunctuation '-' = true := by decide +kernel
  rw [strip, List.dropWhile_cons_of_pos hdash, ← strip]

/-- A phrase is in normal form, quotes included. -/
theorem quoted_normal (text : Text) : IsNormal text.quoted where
  first := ⟨'"', _, rfl, Or.inl quote_stays⟩
  last := ⟨'"' :: text, '"', rfl, Or.inl quote_stays⟩
  oneHash := by simp [Text.quoted]

/-- A phrase is kept, quotes included. -/
theorem strip_phrase (text : Text) : strip text.quoted = text.quoted :=
  (quoted_normal text).strip_eq

/-- A text that stripping keeps does not begin with a dash. -/
theorem head_ne_dash {text : Text} (hkept : strip text = text) : text.head? ≠ some '-' := by
  intro h
  obtain ⟨rest, rfl⟩ := List.head?_eq_some_iff.1 h
  have hle := (strip_sublist rest).length_le
  rw [← strip_dash, hkept, List.length_cons] at hle
  omega

/-- What is left of a token is the value of its search word, and a dash in front excludes it. -/
theorem of_token_eq {token value : Text} (hstrip : strip token = value) (hne : value ≠ []) :
    ofToken? token = some ⟨value, token.head? == some '-'⟩ := by
  obtain ⟨c, rest, rfl⟩ := List.exists_cons_of_ne_nil hne
  rw [ofToken?, hstrip]

/-- A text that begins with no dash gives what is left of it, and a dash in front excludes that. -/
theorem of_token_of_strip {text value : Text} (hdash : text.head? ≠ some '-')
    (hstrip : strip text = value) (hne : value ≠ []) (excluded : Bool) :
    ofToken? (Flag.sign excluded ++ text) = some ⟨value, excluded⟩ := by
  cases excluded with
  | true =>
      rw [Flag.sign, if_pos rfl, List.singleton_append,
        of_token_eq ((strip_dash text).trans hstrip) hne]
      rfl
  | false =>
      rw [Flag.sign, if_neg Bool.false_ne_true, List.nil_append, of_token_eq hstrip hne]
      simpa using hdash

/-- A text that stripping keeps gives itself as search word, and a dash in front excludes it. -/
theorem of_token_signed {text : Text} (hne : text ≠ []) (hkept : strip text = text)
    (excluded : Bool) : ofToken? (Flag.sign excluded ++ text) = some ⟨text, excluded⟩ :=
  of_token_of_strip (head_ne_dash hkept) hkept hne excluded

/-- A phrase gives itself as search word, quotes included. -/
theorem of_token_phrase (text : Text) (excluded : Bool) :
    ofToken? (Flag.sign excluded ++ text.quoted) = some ⟨text.quoted, excluded⟩ :=
  of_token_signed (List.cons_ne_nil _ _) (strip_phrase text) excluded

/-- What is cut from the end ends at the latest at a character that stays. -/
theorem drop_end_cons {test : Char → Bool} {c : Char} (hc : test c = false) (text : Text) :
    Text.dropEndWhile test (c :: text) = c :: Text.dropEndWhile test text := by
  unfold Text.dropEndWhile
  rw [List.reverse_cons, List.dropWhile_append]
  split
  · next hempty => simp [hc, List.isEmpty_iff.1 hempty]
  · simp

/-- A quote in front keeps its place, and only the end behind it is stripped. -/
theorem strip_quote (text : Text) :
    strip ('"' :: text) = '"' :: Text.dropEndWhile isEndPunctuation text := by
  have hfront : isFrontPunctuation '"' = false := by decide +kernel
  have hend : isEndPunctuation '"' = false := by decide +kernel
  rw [strip, List.dropWhile_cons_of_neg (by simp [hfront]), drop_end_cons hend]
  rfl

/-- A token that begins with a quote, or with a dash and a quote, gives a word that begins with the
quote. -/
theorem of_token_quote (excluded : Bool) (text : Text) :
    ofToken? (Flag.sign excluded ++ '"' :: text) =
      some ⟨'"' :: Text.dropEndWhile isEndPunctuation text, excluded⟩ :=
  of_token_of_strip (by simp) (strip_quote text) (List.cons_ne_nil _ _) excluded

/-- Leaving out what fails a test in front does not change what passes it. -/
theorem filter_drop_while {test drop : Char → Bool} (h : ∀ c, drop c = true → test c = false)
    (text : Text) : (text.dropWhile drop).filter test = text.filter test := by
  induction text with
  | nil => rfl
  | cons c text ih =>
      cases hc : drop c with
      | true => rw [List.dropWhile_cons_of_pos hc, ih, List.filter_cons_of_neg (by simp [h c hc])]
      | false => rw [List.dropWhile_cons_of_neg (by simp [hc])]

/-- A test that only kept characters pass fails all others. -/
theorem fails_of_not_kept {test : Char → Bool} (hkept : ∀ c, test c = true → isKept c = true)
    {c : Char} (hc : isKept c = false) : test c = false := by
  rw [← Bool.not_eq_true]
  intro htest
  rw [hkept c htest] at hc
  cases hc

/-- Stripping leaves out none of the characters that are never stripped. -/
theorem filter_strip {test : Char → Bool} (hkept : ∀ c, test c = true → isKept c = true)
    (token : Text) : (strip token).filter test = token.filter test := by
  have hfront : ∀ c, isFrontPunctuation c = true → test c = false := by
    intro c hc
    simp only [isFrontPunctuation, Bool.and_eq_true, Bool.not_eq_true'] at hc
    exact fails_of_not_kept hkept hc.1
  have hend : ∀ c, isEndPunctuation c = true → test c = false := by
    intro c hc
    simp only [isEndPunctuation, Bool.and_eq_true, Bool.not_eq_true'] at hc
    exact fails_of_not_kept hkept hc.1
  have hhash : test '#' = false := fails_of_not_kept hkept (by decide +kernel)
  have hsingle : ∀ text, (singleHash text).filter test = text.filter test := by
    intro text
    unfold singleHash
    split
    · next rest =>
        have hrest : (rest.dropWhile (· = '#')).filter test = rest.filter test := by
          apply filter_drop_while
          intro c hc
          rw [of_decide_eq_true hc, hhash]
        simp only [List.filter_cons, hhash, hrest]
    · rfl
  rw [strip, hsingle, Text.dropEndWhile, List.filter_reverse, filter_drop_while hend,
    List.filter_reverse, List.reverse_reverse, filter_drop_while hfront]

/-- A search word has what is left of its token, and that is something. -/
theorem strip_of_token {token : Text} {word : Word} (h : ofToken? token = some word) :
    strip token = word.value ∧ word.value ≠ [] := by
  unfold ofToken? at h
  split at h
  · cases h
  · next hne =>
      cases h
      exact ⟨rfl, hne⟩

/-- A token has no search word exactly if nothing is left of it. -/
theorem of_token_none_iff {token : Text} : ofToken? token = none ↔ strip token = [] := by
  unfold ofToken?
  split
  · next hempty => exact iff_of_true rfl hempty
  · next hne => exact iff_of_false (Option.some_ne_none _) hne

/-- A dash at the very front of a token excludes its word, and nothing else does. -/
theorem excluded_of_token {token : Text} {word : Word} (h : ofToken? token = some word) :
    word.excluded = true ↔ token.head? = some '-' := by
  unfold ofToken? at h
  split at h
  · cases h
  · cases h
    exact beq_iff_eq

/-- The value of a search word is the stripped token. -/
theorem strip_of_value {token value : Text}
    (h : (ofToken? token).map Word.value = some value) : strip token = value := by
  obtain ⟨word, hword, rfl⟩ := Option.map_eq_some_iff.1 h
  exact (strip_of_token hword).1

end Word

end ForumQuery
