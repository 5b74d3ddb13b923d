import ForumQuery.Word
import Mathlib.Data.List.DropRight

/-!
# The punctuation around a token

Stripping takes a token apart into punctuation in front, a run of hashes that goes but for one, what
is left, and punctuation at the end. `Word.Parts` says what each of them looks like, and
`Word.strip_iff` that a token has such parts exactly if stripping leaves the one before the last.
That one is in normal form: `IsNormal.strip_eq` says that nothing goes when it is stripped itself.
-/

namespace ForumQuery

namespace Text

/-- The end of a text is cut behind its last character that fails the test. -/
theorem drop_end_append {test : Char → Bool} {c : Char} (hc : test c = false) (front : Text)
    {back : Text} (hback : ∀ d ∈ back, test d = true) :
    dropEndWhile test (front ++ c :: back) = front ++ [c] := by
  have hreverse : (front ++ c :: back).reverse = back.reverse ++ c :: front.reverse := by simp
  rw [dropEndWhile, hreverse, List.dropWhile_append_of_pos (by simpa using hback),
    List.dropWhile_cons_of_neg (by simp [hc])]
  simp

/-- The front of a text is cut at the latest at a character that fails the test. -/
theorem drop_front_append {test : Char → Bool} {c : Char} (hc : test c = false)
    (front back : Text) :
    (front ++ c :: back).dropWhile test = front.dropWhile test ++ c :: back := by
  rw [List.dropWhile_append]
  split
  · next hempty =>
      rw [List.isEmpty_iff.1 hempty, List.nil_append, List.dropWhile_cons_of_neg (by simp [hc])]
  · rfl

/-- What is cut from the end of a text. -/
theorem exists_drop_end (test : Char → Bool) (text : Text) :
    ∃ back, text = dropEndWhile test text ++ back ∧ ∀ c ∈ back, test c = true :=
  ⟨text.rtakeWhile test, List.rdropWhile_append_rtakeWhile.symm,
    fun _ => List.mem_rtakeWhile_imp⟩

/-- What is left ends with a character that fails the test. -/
theorem drop_end_concat {test : Char → Bool} {text : Text} (h : dropEndWhile test text ≠ []) :
    ∃ body c, dropEndWhile test text = body ++ [c] ∧ test c = false := by
  have hlast := List.rdropWhile_last_not test text h
  exact ⟨_, _, (List.dropLast_concat_getLast h).symm, Bool.eq_false_iff.2 hlast⟩

end Text

namespace Word

/-- Letters, decimal digits and blanks of any script, and double quotes. They are never stripped. -/
def Stays (c : Char) : Prop :=
  Text.isLetter c = true ∨ Text.isDecimalDigit c = true ∨ Text.isBlank c = true ∨ c = '"'

theorem stays_iff {c : Char} : Stays c ↔ isKept c = true := by
  simp [Stays, isKept, or_assoc]

theorem is_front_punctuation_iff {c : Char} :
    isFrontPunctuation c = true ↔ ¬ Stays c ∧ c ≠ '#' := by
  simp [isFrontPunctuation, stays_iff]

theorem is_end_punctuation_iff {c : Char} :
    isEndPunctuation c = true ↔ ¬ Stays c ∧ c ≠ '*' := by
  simp [isEndPunctuation, stays_iff]

theorem quote_stays : Stays '"' :=
  Or.inr (Or.inr (Or.inr rfl))

/-- A hash by itself is punctuation. -/
theorem hash_goes : ¬ Stays '#' := by
  rw [stays_iff]
  decide +kernel

theorem not_front_punctuation_iff {c : Char} :
    isFrontPunctuation c = false ↔ Stays c ∨ c = '#' := by
  rw [← Bool.not_eq_true, is_front_punctuation_iff, not_and_or, not_not, not_not]

theorem not_end_punctuation_iff {c : Char} : isEndPunctuation c = false ↔ Stays c ∨ c = '*' := by
  rw [← Bool.not_eq_true, is_end_punctuation_iff, not_and_or, not_not, not_not]

/-- A text of which stripping leaves everything. -/
structure IsNormal (value : Text) : Prop where
  first : ∃ c rest, value = c :: rest ∧ (Stays c ∨ c = '#')
  last : ∃ body c, value = body ++ [c] ∧ (Stays c ∨ c = '*')
  oneHash : ∀ rest, value ≠ '#' :: '#' :: rest

/-- A token taken apart: punctuation in front, hashes that go because one more follows them, what
is left, and punctuation at the end. -/
structure Parts (token front : Text) (hashes : Nat) (value back : Text) : Prop where
  whole : token = front ++ (List.replicate hashes '#' ++ value) ++ back
  inFront : ∀ c ∈ front, ¬ Stays c ∧ c ≠ '#'
  behind : ∀ c ∈ back, ¬ Stays c ∧ c ≠ '*'
  doubled : hashes ≠ 0 → ∃ rest, value = '#' :: rest
  normal : IsNormal value

theorem IsNormal.ne_nil {value : Text} (h : IsNormal value) : value ≠ [] := by
  obtain ⟨c, rest, rfl, _⟩ := h.first
  exact List.cons_ne_nil c rest

/-- Of hashes in front of a text in normal form that begins with one, none is left. -/
theorem single_hash_replicate {hashes : Nat} {value : Text} (hnormal : IsNormal value)
    (hdoubled : hashes ≠ 0 → ∃ rest, value = '#' :: rest) :
    singleHash (List.replicate hashes '#' ++ value) = value := by
  have hone : ∀ rest, value = '#' :: rest → rest.dropWhile (· = '#') = rest := by
    rintro rest rfl
    cases rest with
    | nil => rfl
    | cons c rest =>
        have hc : c ≠ '#' := by
          rintro rfl
          exact hnormal.oneHash rest rfl
        rw [List.dropWhile_cons_of_neg (by simpa using hc)]
  cases hashes with
  | zero =>
      rw [List.replicate_zero, List.nil_append, singleHash.eq_def]
      split
      · next rest => rw [hone rest rfl]
      · rfl
  | succ n =>
      obtain ⟨rest, rfl⟩ := hdoubled n.succ_ne_zero
      have hrun : ∀ c ∈ List.replicate n '#', decide (c = '#') = true := by simp
      rw [List.replicate_succ, List.cons_append, singleHash, List.dropWhile_append_of_pos hrun,
        List.dropWhile_cons_of_pos (by simp), hone rest rfl]

/-- The hashes that go, and one that stays behind them. -/
theorem exists_hashes (text : Text) :
    ∃ hashes, text = List.replicate hashes '#' ++ singleHash text ∧
      (hashes ≠ 0 → ∃ rest, singleHash text = '#' :: rest) := by
  unfold singleHash
  split
  · next rest =>
      have hrun : rest.takeWhile (· = '#') =
          List.replicate (rest.takeWhile (· = '#')).length '#' := by
        rw [List.eq_replicate_length]
        intro c hc
        simpa using List.mem_takeWhile_imp hc
      refine ⟨(rest.takeWhile (· = '#')).length, ?_, fun _ => ⟨_, rfl⟩⟩
      calc
        '#' :: rest = '#' :: (rest.takeWhile (· = '#') ++ rest.dropWhile (· = '#')) := by
          rw [List.takeWhile_append_dropWhile]
        _ = List.replicate (rest.takeWhile (· = '#')).length '#' ++
              '#' :: rest.dropWhile (· = '#') := by
          rw [← List.cons_append, hrun, ← List.replicate_succ, List.replicate_succ']
          simp
  · exact ⟨0, rfl, fun h => absurd rfl h⟩

/-- After a run of hashes is cut to one, no second one follows. -/
theorem single_hash_ne (text rest : Text) : singleHash text ≠ '#' :: '#' :: rest := by
  unfold singleHash
  split
  · next tail =>
      intro h
      have hhead : (tail.dropWhile (· = '#')).head? = some '#' := by rw [(List.cons.inj h).2]; rfl
      have hnot := List.head?_dropWhile_not (· = '#') tail
      rw [hhead] at hnot
      simp at hnot
  · next hfront => exact fun h => hfront _ h

/-- Cutting the hashes does not change what a text begins with. -/
theorem single_hash_cons (c : Char) (rest : Text) :
    ∃ later, singleHash (c :: rest) = c :: later := by
  unfold singleHash
  split
  · next tail h => exact ⟨tail.dropWhile (· = '#'), by rw [(List.cons.inj h).1]⟩
  · exact ⟨rest, rfl⟩

variable {token value front back : Text} {hashes : Nat}

/-- Of a token with such parts, stripping leaves the middle one. -/
theorem Parts.strip_eq (h : Parts token front hashes value back) : strip token = value := by
  obtain ⟨c, rest, hvalue, hc⟩ := h.normal.first
  obtain ⟨body, d, hbody, hd⟩ := h.normal.last
  have hopen : ∃ c rest,
      List.replicate hashes '#' ++ value = c :: rest ∧ (Stays c ∨ c = '#') := by
    cases hashes with
    | zero => exact ⟨c, rest, hvalue, hc⟩
    | succ n => exact ⟨'#', _, rfl, Or.inr rfl⟩
  have hfront : token.dropWhile isFrontPunctuation =
      List.replicate hashes '#' ++ value ++ back := by
    obtain ⟨c, rest, hopen, hc⟩ := hopen
    have hgone : ∀ c ∈ front, isFrontPunctuation c = true := fun c hc =>
      is_front_punctuation_iff.2 (h.inFront c hc)
    rw [h.whole, List.append_assoc, List.dropWhile_append_of_pos hgone, hopen, List.cons_append,
      List.dropWhile_cons_of_neg (by simp [not_front_punctuation_iff.2 hc])]
  have hback : Text.dropEndWhile isEndPunctuation (List.replicate hashes '#' ++ value ++ back) =
      List.replicate hashes '#' ++ value := by
    have hgone : ∀ c ∈ back, isEndPunctuation c = true := fun c hc =>
      is_end_punctuation_iff.2 (h.behind c hc)
    have hcut := Text.drop_end_append (not_end_punctuation_iff.2 hd)
      (List.replicate hashes '#' ++ body) hgone
    simpa [hbody] using hcut
  rw [strip, hfront, hback, single_hash_replicate h.normal h.doubled]

/-- What stripping leaves is in normal form. -/
theorem strip_normal (h : strip token ≠ []) : IsNormal (strip token) := by
  have hkept : Text.dropEndWhile isEndPunctuation (token.dropWhile isFrontPunctuation) ≠ [] := by
    intro hnil
    rw [strip, hnil] at h
    exact h rfl
  constructor
  · obtain ⟨back, hrest, _⟩ :=
      Text.exists_drop_end isEndPunctuation (token.dropWhile isFrontPunctuation)
    obtain ⟨c, later, hcons⟩ := List.exists_cons_of_ne_nil hkept
    obtain ⟨rest, hstrip⟩ := single_hash_cons c later
    have hc : isFrontPunctuation c = false := by
      have hhead := List.head?_dropWhile_not isFrontPunctuation token
      rwa [hrest, hcons, List.cons_append, List.head?_cons] at hhead
    exact ⟨c, rest, by rw [strip, hcons, hstrip], not_front_punctuation_iff.1 hc⟩
  · obtain ⟨body, c, hconcat, hc⟩ := Text.drop_end_concat hkept
    obtain ⟨hashes, hsplit, _⟩ :=
      exists_hashes (Text.dropEndWhile isEndPunctuation (token.dropWhile isFrontPunctuation))
    -- The hashes that go are in front, so the last character is the same without them.
    have hlast : (strip token).getLast? = some c := by
      have hwhole : (List.replicate hashes '#' ++ strip token).getLast? = some c := by
        rw [strip, ← hsplit, hconcat, List.getLast?_concat]
      rwa [List.getLast?_append_of_ne_nil _ h] at hwhole
    obtain ⟨front, hstrip⟩ := List.getLast?_eq_some_iff.1 hlast
    exact ⟨front, c, hstrip, not_end_punctuation_iff.1 hc⟩
  · exact fun rest => single_hash_ne _ rest

/-- A token of which stripping leaves something has such parts. -/
theorem exists_parts (h : strip token ≠ []) :
    ∃ front hashes back, Parts token front hashes (strip token) back := by
  obtain ⟨back, hrest, hback⟩ :=
    Text.exists_drop_end isEndPunctuation (token.dropWhile isFrontPunctuation)
  obtain ⟨hashes, hsplit, hdoubled⟩ :=
    exists_hashes (Text.dropEndWhile isEndPunctuation (token.dropWhile isFrontPunctuation))
  refine ⟨token.takeWhile isFrontPunctuation, hashes, back, ?_, ?_, ?_, hdoubled, strip_normal h⟩
  · rw [strip, ← hsplit, List.append_assoc, ← hrest, List.takeWhile_append_dropWhile]
  · exact fun c hc => is_front_punctuation_iff.1 (List.mem_takeWhile_imp hc)
  · exact fun c hc => is_end_punctuation_iff.1 (hback c hc)

/-- Stripping leaves a text that is not empty exactly if the token has parts with that text. -/
theorem strip_iff :
    strip token = value ∧ value ≠ [] ↔
      ∃ front hashes back, Parts token front hashes value back := by
  constructor
  · rintro ⟨rfl, hne⟩
    exact exists_parts hne
  · rintro ⟨front, hashes, back, hparts⟩
    exact ⟨hparts.strip_eq, hparts.normal.ne_nil⟩

/-- A text in normal form is left as it is. -/
theorem IsNormal.strip_eq (h : IsNormal value) : strip value = value := by
  have hparts : Parts value [] 0 value [] :=
    ⟨by simp, by simp, by simp, fun hzero => absurd rfl hzero, h⟩
  exact hparts.strip_eq

end Word

end ForumQuery
