import ForumQuery.Proofs.Token.Offsets

/-!
# A scanner that stops at bad offsets

`tokens?` is the scanner with a test before each use of an offset: no offset may fall below zero,
and the query may be cut only between characters and in order. It stops at the first test that
fails. The main statement, `checked_tokens`, says that none does, and that it has the tokens of the
query.
-/

namespace ForumQuery.Token

/-- The opening of a phrase, if the offset before its quote does not fall below zero. -/
def opening? (cut : Nat) (previous : Option Char) (position : Nat) : Option Nat :=
  if previous = some '-' then
    if position = 0 then none else some (max (position - 1) cut)
  else
    some position

namespace Scan

/-- The tokens given out at a quote, if the query can be cut there. -/
def tokensAtQuote? (query : Text) (scan : Scan) : Option (List Text) :=
  match scan.mode with
  | .outside cut => do
      let start ← opening? cut scan.previous scan.position
      let loose ← query.slice? cut start
      return Text.words loose
  | .inside start => do
      let phrase ← query.slice? start (scan.position + 1)
      return [phrase]

/-- The tokens of the rest of a query, if it can be cut at all quotes to come and at the end. -/
def tokensFrom? (query : Text) (scan : Scan) : Text → Option (List Text)
  | [] => (query.slice? scan.mode.offset query.byteLength).map Text.words
  | c :: rest =>
      if c = '"' then do
        let here ← scan.tokensAtQuote? query
        let later ← (scan.read c).tokensFrom? query rest
        return here ++ later
      else
        (scan.read c).tokensFrom? query rest

end Scan

/-- The tokens of a query by a scanner that stops where an offset cannot be used. -/
def tokens? (query : Text) : Option (List Text) :=
  Scan.start.tokensFrom? query query

namespace Scan

variable {given query rest : Text} {scan : Scan}

/-- Loose text can be cut off in front of a phrase. -/
theorem Placed.tokens_at_opening {held : Text} (h : Placed given (.loose held) scan)
    (hquery : query = given ++ held ++ '"' :: rest) :
    scan.tokensAtQuote? query = some (Text.words (beforeDash held)) := by
  have hwithin := h.opens_within hquery
  have hopening : opening? scan.mode.offset scan.previous scan.position =
      some (Text.byteLength (given ++ beforeDash held)) := by
    rw [← h.opening_eq, opening?, opening]
    split
    · next hdash => rw [if_neg (Nat.ne_of_gt (hwithin.at_dash hdash).1)]
    · rfl
  have hslice : query.slice? (Text.byteLength given) (Text.byteLength (given ++ beforeDash held)) =
      some (beforeDash held) := by
    refine Text.slice?_eq_some_iff.2 ⟨given, dash held ++ '"' :: rest, ?_, rfl, rfl⟩
    rw [hquery, ← List.append_assoc, List.append_assoc given (beforeDash held),
      before_dash_append_dash]
  cases h with
  | outside =>
      simp only [Mode.offset] at hopening
      simp [tokensAtQuote?, hopening, hslice]

/-- A phrase can be cut off behind its second quote. -/
theorem Placed.tokens_at_closing {held : Text} (h : Placed given (.phrase held) scan)
    (hquery : query = given ++ held ++ '"' :: rest) :
    scan.tokensAtQuote? query = some [held ++ ['"']] := by
  cases h with
  | inside _ previous =>
      have hstop : Text.byteLength (given ++ held) + 1 =
          Text.byteLength (given ++ (held ++ ['"'])) := byte_length_next given held '"'
      have hslice : query.slice? (Text.byteLength given)
          (Text.byteLength (given ++ (held ++ ['"']))) = some (held ++ ['"']) :=
        Text.slice?_eq_some_iff.2 ⟨given, rest, by simp [hquery], rfl, rfl⟩
      simp [tokensAtQuote?, hstop, hslice]

theorem tokens_from_other {c : Char} (hc : c ≠ '"') (held : Held) (rest : Text) :
    tokensFrom held (c :: rest) = tokensFrom (held.add c) rest := by
  cases held <;> rw [tokensFrom, if_neg hc] <;> rfl

/-- No cut fails from any place on where the scanner can stand. -/
theorem Placed.tokens_from {held : Held} (h : Placed given held scan)
    (hquery : query = given ++ held.text ++ rest) :
    scan.tokensFrom? query rest = some (tokensFrom held rest) := by
  -- What is given out and held moves on with the scanner, so both vary with the rest.
  induction rest generalizing given held scan with
  | nil =>
      have hslice : query.slice? (Text.byteLength given) query.byteLength = some held.text :=
        Text.slice?_eq_some_iff.2 ⟨given, [], hquery, rfl, by rw [hquery, List.append_nil]⟩
      rw [tokensFrom?, h.offset_eq, hslice]
      cases held <;> rfl
  | cons c rest ih =>
      by_cases hc : c = '"'
      · subst hc
        cases held with
        | loose held =>
            have hrest : query = given ++ beforeDash held ++ (dash held ++ ['"']) ++ rest := by
              rw [hquery, Held.text, ← given_before_dash]
              simp
            have hlater := ih h.opens hrest
            simp [tokensFrom?, tokensFrom, h.tokens_at_opening hquery, hlater]
        | phrase held =>
            have hrest : query = given ++ (held ++ ['"']) ++ [] ++ rest := by
              simp [hquery, Held.text]
            have hlater := ih h.closes hrest
            simp [tokensFrom?, tokensFrom, h.tokens_at_closing hquery, hlater]
      · rw [tokensFrom?, if_neg hc, tokens_from_other hc]
        exact ih (h.read_other hc) (by rw [hquery, Held.text_add]; simp)

end Scan

/-- The scanner that stops at a bad offset never stops. -/
theorem checked_tokens (query : Text) : tokens? query = some (tokens query) := by
  have hstart : Scan.Placed [] (.loose []) Scan.start := .outside [] none (by simp)
  rw [tokens?, tokens_eq]
  exact hstart.tokens_from rfl

end ForumQuery.Token
