import ForumQuery.Text.Blank

/-!
# Tokens of a query

A query is cut at its double quotes. Text outside quotes is loose and splits at blanks; text
between two quotes is a phrase and stays one token, quotes included. A dash directly before an
opening quote belongs to the phrase. A quote that is never closed opens nothing: what follows it
splits at blanks like loose text.

The scanner reads the query once and answers with stretches given by their UTF-8 offsets;
`tokens` takes the texts of the stretches.
-/

namespace ForumQuery.Token

/-- A part of a query between two UTF-8 offsets. -/
inductive Stretch where
  | loose (start stop : Nat)
  | phrase (start stop : Nat)
  deriving DecidableEq

/-- Where the scanner stands: outside a phrase with the text from `cut` on not yet given out, or
inside a phrase that opened at `start`. -/
inductive Mode where
  | outside (cut : Nat)
  | inside (start : Nat)
  deriving DecidableEq

/-- The offset at which a phrase opens whose first quote stands at `position`: at the quote, or at
a dash directly before it, but never before the text not yet given out. -/
def opening (cut : Nat) (previous : Option Char) (position : Nat) : Nat :=
  if previous = some '-' then max (position - 1) cut else position

/-- The stretches of the rest of a query, from the scanner's mode, the character read last and the
offset reached. -/
def stretchesFrom (mode : Mode) (previous : Option Char) (position : Nat) : Text → List Stretch
  | [] =>
      match mode with
      | .outside cut => [.loose cut position]
      | .inside start => [.loose start position]
  | c :: rest =>
      let next := position + c.utf8Size
      if c = '"' then
        match mode with
        | .outside cut =>
            let start := opening cut previous position
            .loose cut start :: stretchesFrom (.inside start) (some c) next rest
        | .inside start =>
            .phrase start next :: stretchesFrom (.outside next) (some c) next rest
      else
        stretchesFrom mode (some c) next rest

/-- The stretches of a query. -/
def stretches (query : Text) : List Stretch :=
  stretchesFrom (.outside 0) none 0 query

/-- The tokens of a stretch: the words of loose text, or the phrase itself. -/
def Stretch.tokens (query : Text) : Stretch → List Text
  | .loose start stop => Text.words (query.slice start stop)
  | .phrase start stop => [query.slice start stop]

/-- The tokens of a query, in order. -/
def tokens (query : Text) : List Text :=
  (stretches query).flatMap (Stretch.tokens query)

end ForumQuery.Token
