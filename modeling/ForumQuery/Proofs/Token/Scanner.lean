import ForumQuery.Proofs.Text.Words
import ForumQuery.Token

/-!
# Scanning a query as text

The scanner of a query works with offsets. `tokensFrom` is the same scanner with the text itself in
place of the offsets: it holds what has been read and not yet given out. `tokens_eq` says that both
give the same tokens.
-/

namespace ForumQuery.Token

/-- What the scanner has read and not yet given out: loose text, or a phrase that has opened. -/
inductive Held where
  | loose (text : Text)
  | phrase (text : Text)

/-- The dash at the end of loose text, which a quote after it takes into its phrase. -/
def dash (text : Text) : Text :=
  if text.getLast? = some '-' then ['-'] else []

/-- Loose text without the dash that a quote after it takes. -/
def beforeDash (text : Text) : Text :=
  if text.getLast? = some '-' then text.dropLast else text

/-- The tokens of the rest of a query from what the scanner holds. -/
def tokensFrom : Held → Text → List Text
  | .loose held, [] => Text.words held
  | .phrase held, [] => Text.words held
  | .loose held, c :: rest =>
      if c = '"' then
        Text.words (beforeDash held) ++ tokensFrom (.phrase (dash held ++ ['"'])) rest
      else
        tokensFrom (.loose (held ++ [c])) rest
  | .phrase held, c :: rest =>
      if c = '"' then
        (held ++ ['"']) :: tokensFrom (.loose []) rest
      else
        tokensFrom (.phrase (held ++ [c])) rest

theorem before_dash_append_dash (text : Text) : beforeDash text ++ dash text = text := by
  unfold beforeDash dash
  split
  · next h =>
      obtain ⟨front, rfl⟩ := List.getLast?_eq_some_iff.1 h
      simp
  · simp

/-- A phrase opens where the dash before its quote, if there is one, begins. -/
theorem opening_eq (given held : Text) (previous : Option Char)
    (hprevious : previous = some '-' ↔ held.getLast? = some '-') :
    opening (Text.byteLength given) previous (Text.byteLength (given ++ held)) =
      Text.byteLength (given ++ beforeDash held) := by
  unfold opening beforeDash
  by_cases h : held.getLast? = some '-'
  · rw [if_pos (hprevious.2 h), if_pos h]
    obtain ⟨front, rfl⟩ := List.getLast?_eq_some_iff.1 h
    have hsize : Text.byteLength ['-'] = 1 := by decide
    rw [List.dropLast_concat, Text.byteLength_append, Text.byteLength_append,
      Text.byteLength_append, hsize]
    omega
  · rw [if_neg (fun hdash => h (hprevious.1 hdash)), if_neg h]

/-- Between the offsets where the held text begins and ends stands the held text. -/
theorem slice_held (given held rest : Text) :
    Text.slice (given ++ held ++ rest) (Text.byteLength given) (Text.byteLength (given ++ held)) =
      held :=
  Text.slice_append given held rest

/-- One more character moves the offset on by its size. -/
theorem byte_length_next (given held : Text) (c : Char) :
    Text.byteLength (given ++ held) + c.utf8Size = Text.byteLength (given ++ (held ++ [c])) := by
  rw [← List.append_assoc, Text.byteLength_append (given ++ held)]
  simp [Text.byteLength]

/-- A quote moves the dash before it from the loose text into the phrase. -/
theorem given_before_dash (given held : Text) :
    given ++ (held ++ ['"']) = given ++ beforeDash held ++ (dash held ++ ['"']) := by
  rw [← List.append_assoc, ← List.append_assoc, List.append_assoc given (beforeDash held),
    before_dash_append_dash]

/-- The scanner with offsets, when `given` has been given out and `held` is held, gives the tokens
of the scanner with texts. -/
theorem stretches_from_tokens (rest given held : Text) :
    (∀ previous : Option Char, (previous = some '-' ↔ held.getLast? = some '-') →
      (stretchesFrom (.outside (Text.byteLength given)) previous
        (Text.byteLength (given ++ held)) rest).flatMap (Stretch.tokens (given ++ held ++ rest)) =
          tokensFrom (.loose held) rest) ∧
    ∀ previous : Option Char,
      (stretchesFrom (.inside (Text.byteLength given)) previous
        (Text.byteLength (given ++ held)) rest).flatMap (Stretch.tokens (given ++ held ++ rest)) =
          tokensFrom (.phrase held) rest := by
  induction rest generalizing given held with
  | nil =>
      have hheld := slice_held given held []
      constructor <;> intros <;>
        rw [stretchesFrom, List.flatMap_cons, Stretch.tokens, hheld, List.flatMap_nil,
          List.append_nil, tokensFrom]
  | cons c rest ih =>
      have hnext := byte_length_next given held c
      have hquery : given ++ held ++ c :: rest = given ++ (held ++ [c]) ++ rest := by simp
      by_cases hc : c = '"'
      · subst hc
        constructor
        · intro previous hprevious
          -- The text given out grows by the loose text; the dash stays held with the quote.
          have hgiven := given_before_dash given held
          have hloose : Text.slice (given ++ held ++ '"' :: rest) (Text.byteLength given)
              (Text.byteLength (given ++ beforeDash held)) = beforeDash held := by
            rw [hquery, hgiven, List.append_assoc]
            exact slice_held ..
          simp only [stretchesFrom, if_true, opening_eq given held previous hprevious,
            List.flatMap_cons, Stretch.tokens, hloose, tokensFrom]
          rw [hnext, hquery, hgiven, (ih (given ++ beforeDash held) (dash held ++ ['"'])).2]
        · intro previous
          -- The phrase is given out whole, and nothing is held behind it.
          have hphrase : Text.slice (given ++ held ++ '"' :: rest) (Text.byteLength given)
              (Text.byteLength (given ++ (held ++ ['"']))) = held ++ ['"'] := by
            rw [hquery]
            exact slice_held ..
          have hrest := (ih (given ++ (held ++ ['"'])) []).1 (some '"') (by simp)
          simp only [List.append_nil] at hrest
          simp only [stretchesFrom, if_true, hnext, List.flatMap_cons, Stretch.tokens, hphrase,
            tokensFrom, List.singleton_append]
          rw [hquery, hrest]
      · constructor
        · intro previous _
          simp only [stretchesFrom, hc, if_false, hnext, tokensFrom]
          rw [hquery]
          exact (ih given (held ++ [c])).1 (some c) (by simp)
        · intro previous
          simp only [stretchesFrom, hc, if_false, hnext, tokensFrom]
          rw [hquery]
          exact (ih given (held ++ [c])).2 (some c)

/-- Offsets or texts, the tokens are the same. -/
theorem tokens_eq (query : Text) : tokens query = tokensFrom (.loose []) query :=
  (stretches_from_tokens query [] []).1 none (by simp)

end ForumQuery.Token
