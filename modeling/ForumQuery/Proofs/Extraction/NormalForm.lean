import ForumQuery.Proofs.Extraction.Strip

/-!
# Normal forms of search words

`Word.strip_eq_nil_iff` says of which tokens stripping leaves nothing. The main statement,
`normal_form_of_token`, says that all others have a search word, and that its value is in normal
form, stands in the token as one piece, and is its own search word.
-/

namespace ForumQuery.Word

variable {token : Text}

/-- Stripping leaves nothing exactly if all that stands behind the punctuation in front is
punctuation at the end. -/
theorem strip_eq_nil_iff_behind :
    strip token = [] ↔
      ∀ c ∈ token.dropWhile isFrontPunctuation, isEndPunctuation c = true := by
  have hhash : ∀ text, singleHash text = [] ↔ text = [] := by
    intro text
    cases text with
    | nil => exact iff_of_true rfl rfl
    | cons c rest =>
        obtain ⟨later, hlater⟩ := single_hash_cons c rest
        simp [hlater]
  rw [strip, hhash]
  exact List.rdropWhile_eq_nil_iff

/-- That is so if the token has no character that stays and no asterisk behind a hash. -/
theorem strip_eq_nil_iff :
    strip token = [] ↔
      (∀ c ∈ token, ¬ Stays c) ∧ ∀ front back, token = front ++ '#' :: back → '*' ∉ back := by
  rw [strip_eq_nil_iff_behind]
  constructor
  · intro h
    constructor
    · intro c hc
      rw [← List.takeWhile_append_dropWhile (p := isFrontPunctuation) (l := token)] at hc
      cases List.mem_append.1 hc with
      | inl hfront => exact (is_front_punctuation_iff.1 (List.mem_takeWhile_imp hfront)).1
      | inr hrest => exact (is_end_punctuation_iff.1 (h c hrest)).1
    · rintro front back rfl hstar
      have hhash : isFrontPunctuation '#' = false := not_front_punctuation_iff.2 (Or.inr rfl)
      rw [Text.drop_front_append hhash] at h
      exact (is_end_punctuation_iff.1 (h '*' (by simp [hstar]))).2 rfl
  · rintro ⟨hstays, hstar⟩ c hc
    refine is_end_punctuation_iff.2 ⟨hstays c ((List.dropWhile_sublist _).mem hc), ?_⟩
    rintro rfl
    -- What stands behind the punctuation in front begins with a hash, as nothing here stays.
    obtain ⟨d, rest, hrest⟩ := List.exists_cons_of_ne_nil (List.ne_nil_of_mem hc)
    have hd : isFrontPunctuation d = false := by
      have hhead := List.head?_dropWhile_not isFrontPunctuation token
      rwa [hrest, List.head?_cons] at hhead
    have htoken : token = token.takeWhile isFrontPunctuation ++ d :: rest := by
      rw [← hrest, List.takeWhile_append_dropWhile]
    cases not_front_punctuation_iff.1 hd with
    | inl h => exact hstays d (by rw [htoken]; simp) h
    | inr h =>
        subst h
        rw [hrest] at hc
        exact hstar _ rest htoken (by simpa using hc)

/-- A token has a search word unless nothing in it stays and no asterisk stands behind a hash. A
dash at the very front excludes the word. Its value is in normal form and stands in the token as one
piece, with nothing around it that stays and no asterisk behind it, and it is its own search
word. -/
theorem normal_form_of_token (token : Text) :
    (ofToken? token = none ↔
      (∀ c ∈ token, ¬ Stays c) ∧ ∀ front back, token = front ++ '#' :: back → '*' ∉ back) ∧
    ∀ word, ofToken? token = some word →
      (word.excluded = true ↔ token.head? = some '-') ∧
      IsNormal word.value ∧
      (∃ front back, token = front ++ word.value ++ back ∧ (∀ c ∈ front, ¬ Stays c) ∧
        ∀ c ∈ back, ¬ Stays c ∧ c ≠ '*') ∧
      ofToken? word.value = some ⟨word.value, false⟩ := by
  constructor
  · rw [← strip_eq_nil_iff, of_token_none_iff]
  · intro word hword
    obtain ⟨hstrip, hne⟩ := strip_of_token hword
    obtain ⟨front, hashes, back, hparts⟩ := strip_iff.1 ⟨hstrip, hne⟩
    have hnormal := hparts.normal
    have hfront : ∀ c ∈ front ++ List.replicate hashes '#', ¬ Stays c := by
      intro c hc
      cases List.mem_append.1 hc with
      | inl hc => exact (hparts.inFront c hc).1
      | inr hc =>
          rw [List.eq_of_mem_replicate hc]
          exact hash_goes
    have hwhole : token = front ++ List.replicate hashes '#' ++ word.value ++ back := by
      rw [hparts.whole, ← List.append_assoc front]
    exact ⟨excluded_of_token hword, hnormal, ⟨_, back, hwhole, hfront, hparts.behind⟩,
      of_token_signed hne hnormal.strip_eq false⟩

/-- The asterisk ends the word, behind which a bracket goes, and one of two hashes begins it. -/
theorem normal_form_of_token_wildcard :
    let token : Text := "-(##Ünï c++*)!".toList
    let value : Text := "#Ünï c++*".toList
    ofToken? token = some ⟨value, true⟩ ∧ IsNormal value ∧
      (∃ front back, token = front ++ value ++ back ∧ (∀ c ∈ front, ¬ Stays c) ∧
        ∀ c ∈ back, ¬ Stays c ∧ c ≠ '*') ∧
      ofToken? value = some ⟨value, false⟩ := by
  intro token value
  have hword : ofToken? token = some ⟨value, true⟩ := by decide +kernel
  obtain ⟨_, hnormal, hpiece, hself⟩ := (normal_form_of_token token).2 _ hword
  exact ⟨hword, hnormal, hpiece, hself⟩

end ForumQuery.Word
