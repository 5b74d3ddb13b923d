import ForumQuery.Flag
import ForumQuery.Proofs.Text.Classes
import ForumQuery.Proofs.Text.Spelling
import Mathlib.Data.List.TakeWhile

/-!
# Which tokens are flags

A token is shaped like a flag if the text before its first colon, less a dash, spells the name of
a flag. `head_eq_none_iff` says so. `head_some_iff` says what every flag looks like, and
`head_written` that a name that is written out is read back, with all that follows its colon.
-/

namespace ForumQuery

namespace FlagName

/-- A name is read exactly if the text is the name in some ASCII case. -/
theorem read_name_iff {text : Text} {name : FlagName} :
    FlagName.read? text = some name ↔ text.map Char.toLower = name.text := by
  apply Text.find_spelled_iff mem_all
  · intro name
    cases name <;> decide
  · intro name other h
    cases name <;> cases other <;> first | rfl | exact absurd h (by decide)

/-- Names have nothing in them that a query is cut by. -/
theorem plain_of_mem_text {name : FlagName} {c : Char} (h : c ∈ name.text) :
    Text.isBlank c = false ∧ c ≠ '"' ∧ c ≠ ':' ∧ c ≠ '-' := by
  have hall : (name.text.all fun c =>
      !Text.isBlank c && c ≠ '"' && c ≠ ':' && c ≠ '-') = true := by
    cases name <;> decide
  simpa [and_assoc] using List.all_eq_true.1 hall c h

/-- A character without another case is in a spelling only if it is in the name. -/
theorem mem_text_of_spelled {text : Text} {name : FlagName} {c : Char}
    (h : text.map Char.toLower = name.text) (hcase : c.toLower = c) (hc : c ∈ text) :
    c ∈ name.text := by
  have hlower : c.toLower ∈ text.map Char.toLower := List.mem_map_of_mem hc
  rwa [h, hcase] at hlower

/-- No text with a quote spells a name. -/
theorem read_name_of_quote {text : Text} (h : '"' ∈ text) : read? text = none := by
  cases hread : read? text with
  | none => rfl
  | some name =>
      have hname := mem_text_of_spelled (read_name_iff.1 hread) (by decide) h
      exact absurd rfl (plain_of_mem_text hname).2.1

end FlagName

/-- A character that the text before it does not have is the first of its kind. -/
theorem Text.split_at {c : Char} {front : Text} (hfront : c ∉ front) (back : Text) :
    (front ++ c :: back).takeWhile (· ≠ c) = front ∧
      (front ++ c :: back).dropWhile (· ≠ c) = c :: back := by
  have hpos : ∀ d ∈ front, decide (d ≠ c) = true := by
    intro d hd
    rw [decide_eq_true_eq]
    rintro rfl
    exact hfront hd
  rw [List.takeWhile_append_of_pos hpos, List.dropWhile_append_of_pos hpos]
  simp

/-- The text between quotes. -/
def Text.quoted (text : Text) : Text :=
  '"' :: (text ++ ['"'])

namespace Flag

/-- The dash of a token that excludes, or nothing. -/
def sign (excluded : Bool) : Text :=
  if excluded then ['-'] else []

theorem quote_free_sign (excluded : Bool) : '"' ∉ sign excluded := by
  cases excluded <;> decide

/-- What stands at the place of a flag name: the text before the first colon, less one dash in
front. -/
def nameText (token : Text) : Text :=
  match token.takeWhile (· ≠ ':') with
  | '-' :: name => name
  | name => name

/-- A token is no flag exactly if it has no colon or no name at the place of one. -/
theorem head_eq_none_iff {token : Text} :
    head? token = none ↔ ':' ∈ token → FlagName.read? (nameText token) = none := by
  have hcolon : token.dropWhile (· ≠ ':') = [] ↔ ':' ∉ token := by
    rw [List.dropWhile_eq_nil_iff]
    constructor
    · intro h hmem
      simpa using h ':' hmem
    · intro h c hc
      rw [decide_eq_true_eq]
      rintro rfl
      exact h hc
  unfold head? nameText
  cases hdrop : token.dropWhile (· ≠ ':') with
  | nil => simp [hcolon.1 hdrop]
  | cons c suffix =>
      have hmem : ':' ∈ token := by
        rw [← not_not (a := ':' ∈ token), ← hcolon, hdrop]
        simp
      simp only [hmem, true_imp_iff]
      generalize token.takeWhile (· ≠ ':') = front
      cases front with
      | nil => exact Option.map_eq_none_iff
      | cons d front =>
          by_cases hdash : d = '-'
          · subst hdash
            exact Option.map_eq_none_iff
          · simp [hdash]

/-- One dash in front does not belong to the name. -/
theorem name_text_signed {text : Text} (hdash : text.head? ≠ some '-') (excluded : Bool) :
    nameText (sign excluded ++ text) = text.takeWhile (· ≠ ':') := by
  cases excluded with
  | true => simp [nameText, sign]
  | false =>
      rw [sign, if_neg Bool.false_ne_true, List.nil_append, nameText]
      split
      · next name h =>
          cases text with
          | nil => simp at h
          | cons c text =>
              rw [List.takeWhile_cons] at h
              split at h
              · next hc => simp [List.cons.inj h] at hdash
              · simp at h
      · rfl

/-- With or without a dash in front, a text is no flag if it has no colon or no name before it. -/
theorem head_signed_eq_none {text : Text} (hdash : text.head? ≠ some '-')
    (hname : ':' ∈ text → FlagName.read? (text.takeWhile (· ≠ ':')) = none) (excluded : Bool) :
    head? (sign excluded ++ text) = none := by
  rw [head_eq_none_iff, name_text_signed hdash]
  intro hcolon
  refine hname ?_
  cases excluded <;> simpa [sign] using hcolon

/-- A token that begins with a quote, or with a dash and a quote, is no flag. -/
theorem head_of_quote (excluded : Bool) (text : Text) :
    head? (sign excluded ++ '"' :: text) = none := by
  refine head_signed_eq_none (by simp) (fun _ => ?_) excluded
  exact FlagName.read_name_of_quote (by simp)

/-- The colon behind the name of a flag is the first one. -/
theorem colon_free_of_spelled {text : Text} {name : FlagName}
    (h : text.map Char.toLower = name.text) (excluded : Bool) :
    ':' ∉ sign excluded ++ text := by
  have hcolon : ':' ∉ text := by
    intro hc
    have hname := FlagName.mem_text_of_spelled h (by decide) hc
    exact (FlagName.plain_of_mem_text hname).2.2.1 rfl
  cases excluded <;> simp [sign, hcolon]

/-- A flag whose name is spelled in any ASCII case is read, whatever follows its colon. -/
theorem head_spelled {text : Text} {name : FlagName} (h : text.map Char.toLower = name.text)
    (excluded : Bool) (suffix : Text) :
    head? (sign excluded ++ text ++ ':' :: suffix) = some ⟨name, excluded, suffix⟩ := by
  have hread := FlagName.read_name_iff.2 h
  have hdash : '-' ∉ text := by
    intro hc
    have hname := FlagName.mem_text_of_spelled h (by decide) hc
    exact (FlagName.plain_of_mem_text hname).2.2.2 rfl
  have hfront := colon_free_of_spelled h excluded
  unfold head?
  rw [(Text.split_at hfront suffix).1, (Text.split_at hfront suffix).2]
  cases excluded with
  | true => simp [sign, hread]
  | false =>
      simp only [sign, if_false, List.nil_append, Bool.false_eq_true]
      split
      · next rest => exact absurd List.mem_cons_self hdash
      · simp [hread]

/-- A token is a flag exactly if it spells a name, with or without a dash in front, and then has a
colon. -/
theorem head_some_iff {token : Text} {head : Head} :
    head? token = some head ↔
      ∃ text, text.map Char.toLower = head.name.text ∧
        token = sign head.excluded ++ text ++ ':' :: head.suffix := by
  constructor
  · intro h
    by_cases hcolon : ':' ∈ token
    · obtain ⟨front, suffix, rfl, hfront⟩ := List.eq_append_cons_of_mem hcolon
      unfold head? at h
      rw [(Text.split_at hfront suffix).1, (Text.split_at hfront suffix).2] at h
      simp only at h
      split at h
      all_goals
        obtain ⟨name, hread, rfl⟩ := Option.map_eq_some_iff.1 h
        exact ⟨_, FlagName.read_name_iff.1 hread, rfl⟩
    · rw [head_eq_none_iff.2 fun hmem => absurd hmem hcolon] at h
      simp at h
  · rintro ⟨text, hspelled, rfl⟩
    exact head_spelled hspelled head.excluded head.suffix

/-- A flag that is written out is read back, whatever follows its colon. -/
theorem head_written (name : FlagName) (excluded : Bool) (suffix : Text) :
    head? (sign excluded ++ name.text ++ ':' :: suffix) = some ⟨name, excluded, suffix⟩ :=
  head_spelled (by cases name <;> decide) excluded suffix

/-- The quotes around a value go. -/
theorem unquote_quoted (text : Text) : unquote text.quoted = text := by
  simp [unquote, Text.quoted]

/-- Quotes around a value are all that can go. -/
theorem unquote_sublist (text : Text) : (unquote text).Sublist text := by
  unfold unquote
  split
  · next rest =>
      split
      · exact (List.dropLast_sublist rest).trans (List.sublist_cons_self ..)
      · exact List.Sublist.refl _
  · exact List.Sublist.refl _

/-- A value that does not begin with a quote is kept. -/
theorem unquote_bare {text : Text} (h : text.head? ≠ some '"') : unquote text = text := by
  unfold unquote
  split
  · simp at h
  · rfl

end Flag

end ForumQuery
