import ForumQuery.Proofs.Extraction.Strip
import ForumQuery.Proofs.Terms.Words

/-!
# How tags are spelled

A token spells a tag if it has one or more hashes, a name behind them, and nothing but punctuation
around these. `Tag.Spelling` holds the parts of such a token, and `Tag.Spelling.unique` says that a
token has them in one way only. The main statement, `tag_of_token`, says that just the tokens with a
spelling give tags, and which bucket a token goes to.
-/

namespace ForumQuery

namespace Tag

/-- How a token spells a tag: punctuation, hashes, the name of the tag, and punctuation. -/
structure Spelling (token : Text) where
  front : Text
  hashes : Nat
  name : Text
  back : Text
  whole : token = front ++ List.replicate hashes '#' ++ name ++ back
  inFront : ∀ c ∈ front, ¬ Word.Stays c ∧ c ≠ '#'
  someHash : 1 ≤ hashes
  proper : IsProper name
  behind : ∀ c ∈ back, ¬ Word.Stays c ∧ c ≠ '*'

/-- A text has the shape of a tag exactly if it is a hash and a proper name. -/
theorem is_tag_iff {text : Text} :
    isTag text = true ↔ ∃ name, text = '#' :: name ∧ IsProper name := by
  rw [isTag, Option.isSome_iff_exists]
  exact exists_congr fun name => by rw [name_some_iff, is_name_iff]

namespace Spelling

variable {token : Text}

/-- Stripping takes a token that spells a tag apart and leaves one hash and the name. -/
theorem parts (spelling : Spelling token) :
    Word.Parts token spelling.front (spelling.hashes - 1) ('#' :: spelling.name) spelling.back where
  whole := by
    obtain ⟨n, hn⟩ := Nat.exists_eq_add_of_le' spelling.someHash
    have hwhole := spelling.whole
    rw [hn, List.replicate_succ'] at hwhole
    simpa [hn] using hwhole
  inFront := spelling.inFront
  behind := spelling.behind
  doubled _ := ⟨spelling.name, rfl⟩
  normal := spelling.proper.normal

/-- A token that is taken apart so and leaves a hash and a proper name spells a tag. -/
def ofParts {front name back : Text} {hashes : Nat}
    (h : Word.Parts token front hashes ('#' :: name) back) (proper : IsProper name) :
    Spelling token where
  front := front
  hashes := hashes + 1
  name := name
  back := back
  whole := by simpa [List.replicate_succ'] using h.whole
  inFront := h.inFront
  someHash := Nat.le_add_left 1 hashes
  proper := proper
  behind := h.behind

/-- The hashes begin at the first one of the token, and the name behind their run. -/
theorem runs (spelling : Spelling token) :
    token.takeWhile (· ≠ '#') = spelling.front ∧
      (token.dropWhile (· ≠ '#')).takeWhile (· = '#') = List.replicate spelling.hashes '#' := by
  obtain ⟨n, hn⟩ := Nat.exists_eq_add_of_le' spelling.someHash
  have hfront : '#' ∉ spelling.front := fun h => (spelling.inFront '#' h).2 rfl
  have hwhole : token = spelling.front ++
      '#' :: (List.replicate n '#' ++ (spelling.name ++ spelling.back)) := by
    have hparts := spelling.whole
    rw [hn, List.replicate_succ] at hparts
    simpa using hparts
  have hsplit := Text.split_at hfront (List.replicate n '#' ++ (spelling.name ++ spelling.back))
  rw [← hwhole] at hsplit
  have hname : (spelling.name ++ spelling.back).takeWhile (· = '#') = [] := by
    have hhead := spelling.proper.head_ne_hash
    obtain ⟨first, middle, last, hname, _⟩ := spelling.proper
    rw [hname, List.head?_cons] at hhead
    rw [hname, List.cons_append, List.takeWhile_cons_of_neg (by simpa using hhead)]
  refine ⟨hsplit.1, ?_⟩
  have hrun : ∀ c ∈ List.replicate (n + 1) '#', decide (c = '#') = true := by simp
  rw [hsplit.2, ← List.cons_append, ← List.replicate_succ, List.takeWhile_append_of_pos hrun, hname,
    List.append_nil, hn]

/-- A token spells a tag in one way only. -/
theorem unique (spelling other : Spelling token) : spelling = other := by
  have hname : spelling.name = other.name := by
    have hstrip := spelling.parts.strip_eq.symm.trans other.parts.strip_eq
    exact (List.cons.inj hstrip).2
  have hfront : spelling.front = other.front := spelling.runs.1.symm.trans other.runs.1
  have hhashes : spelling.hashes = other.hashes := by
    have hrun := congrArg List.length (spelling.runs.2.symm.trans other.runs.2)
    simpa using hrun
  obtain ⟨front, hashes, name, back, whole⟩ := spelling
  obtain ⟨front', hashes', name', back', whole'⟩ := other
  simp only at hname hfront hhashes
  subst hname hfront hhashes
  obtain rfl : back = back' := List.append_cancel_left (whole.symm.trans whole')
  rfl

end Spelling

/-- The word of a token has the shape of a tag exactly if the token spells one. -/
theorem gives_tag_iff {token : Text} :
    (∃ word, Word.ofToken? token = some word ∧ isTag word.value = true) ↔
      Nonempty (Spelling token) := by
  constructor
  · rintro ⟨word, hword, htag⟩
    obtain ⟨name, hvalue, hproper⟩ := is_tag_iff.1 htag
    obtain ⟨front, hashes, back, hparts⟩ := Word.strip_iff.1 (Word.strip_of_token hword)
    rw [hvalue] at hparts
    exact ⟨.ofParts hparts hproper⟩
  · rintro ⟨spelling⟩
    exact ⟨_, Word.of_token_eq spelling.parts.strip_eq (List.cons_ne_nil _ _),
      is_tag_iff.2 ⟨spelling.name, rfl, spelling.proper⟩⟩

end Tag

/-- The terms with one text, on the side that it belongs to. -/
theorem Terms.add_empty (term : Text) (excluded : Bool) :
    ({} : Terms).add term excluded =
      if excluded then { excluded := term } else { included := term } := by
  cases excluded <;> cases term <;> rfl

/-- A token gives a tag exactly if it spells one, and there is one way to spell it. The name of the
tag alone goes to the excluded tags if the token begins with a dash, and to the included ones
otherwise. Any other token that gives a word goes with all that stripping leaves of it to the
excluded or the included plain terms. -/
theorem tag_of_token (token : Text) :
    ((∃ word, Word.ofToken? token = some word ∧ Tag.isTag word.value = true) ↔
      Nonempty (Tag.Spelling token)) ∧
    (∀ spelling other : Tag.Spelling token, spelling = other) ∧
    ∀ word, Word.ofToken? token = some word →
      let side (text : Text) : Terms :=
        if token.head? = some '-' then { excluded := text } else { included := text }
      (∀ spelling : Tag.Spelling token,
        Buckets.ofWords [word] = { tags := side spelling.name }) ∧
      (IsEmpty (Tag.Spelling token) → Buckets.ofWords [word] = { plain := side word.value }) := by
  refine ⟨Tag.gives_tag_iff, Tag.Spelling.unique, fun word hword => ?_⟩
  intro side
  have hside : ∀ text, side text = ({} : Terms).add text word.excluded := by
    intro text
    rw [Terms.add_empty]
    exact if_congr (Word.excluded_of_token hword).symm rfl rfl
  constructor
  · intro spelling
    have hvalue : word.value = '#' :: spelling.name :=
      (Word.strip_of_token hword).1.symm.trans spelling.parts.strip_eq
    have hname : Tag.name? word.value = some spelling.name :=
      Tag.name_some_iff.2 ⟨hvalue, Tag.is_name_iff.2 spelling.proper⟩
    show Buckets.add {} word = _
    rw [Buckets.add, hname, hside]
  · intro hnone
    have hname : Tag.name? word.value = none := by
      rw [← Option.not_isSome_iff_eq_none]
      exact fun htag => (Tag.gives_tag_iff.1 ⟨word, hword, htag⟩).elim hnone.false
    show Buckets.add {} word = _
    rw [Buckets.add, hname, hside]

/-- Brackets and an underscore go around a name, but with one letter there is no name. -/
theorem tag_of_token_punctuated :
    let tag : Text := "-(##Rust_2_)!".toList
    let plain : Text := "#c++".toList
    Word.ofToken? tag = some ⟨"#Rust_2".toList, true⟩ ∧
      (∃ spelling : Tag.Spelling tag, spelling.name = "Rust_2".toList) ∧
      Buckets.ofWords [⟨"#Rust_2".toList, true⟩] = { tags := { excluded := "Rust_2".toList } } ∧
      Word.ofToken? plain = some ⟨"#c".toList, false⟩ ∧
      IsEmpty (Tag.Spelling plain) ∧
      Buckets.ofWords [⟨"#c".toList, false⟩] = { plain := { included := "#c".toList } } := by
  intro tag plain
  have htag : Word.ofToken? tag = some ⟨"#Rust_2".toList, true⟩ := by decide +kernel
  have hplain : Word.ofToken? plain = some ⟨"#c".toList, false⟩ := by decide +kernel
  obtain ⟨hspells, _, htagged⟩ := tag_of_token tag
  obtain ⟨spelling⟩ := hspells.1 ⟨_, htag, by decide +kernel⟩
  have hname : spelling.name = "Rust_2".toList := by
    have hstrip := spelling.parts.strip_eq.symm.trans (Word.strip_of_token htag).1
    exact (List.cons.inj hstrip).2
  have hbuckets := (htagged _ htag).1 spelling
  rw [hname] at hbuckets
  have hnone : IsEmpty (Tag.Spelling plain) := by
    refine ⟨fun other => ?_⟩
    obtain ⟨word, hword, hshape⟩ := (tag_of_token plain).1.2 ⟨other⟩
    rw [hplain, Option.some.injEq] at hword
    subst hword
    exact absurd hshape (by decide +kernel)
  obtain ⟨_, _, hloose⟩ := tag_of_token plain
  exact ⟨htag, ⟨spelling, hname⟩, hbuckets, hplain, hnone, (hloose _ hplain).2 hnone⟩

end ForumQuery
