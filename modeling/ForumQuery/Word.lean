import ForumQuery.Text.Blank
import ForumQuery.Text.DecimalDigit
import ForumQuery.Text.Letter

/-!
# Search words

A token that is no flag becomes a search word: the punctuation around it goes, a run of hashes in
front becomes one hash, and a dash at the very front of the token excludes the word.
-/

namespace ForumQuery

/-- A word to be found, or to be absent if excluded. -/
structure Word where
  value : Text
  excluded : Bool
  deriving DecidableEq

namespace Word

/-- Characters that are never stripped: letters, decimal digits, blanks and double quotes. -/
def isKept (c : Char) : Bool :=
  Text.isLetter c || Text.isDecimalDigit c || Text.isBlank c || c == '"'

/-- Stripped from the front. A hash stays there, for it may open a tag. -/
def isFrontPunctuation (c : Char) : Bool :=
  !isKept c && c != '#'

/-- Stripped from the end. An asterisk stays there, for it asks for all continuations. -/
def isEndPunctuation (c : Char) : Bool :=
  !isKept c && c != '*'

/-- One hash in place of all hashes at the front. -/
def singleHash : Text → Text
  | '#' :: rest => '#' :: rest.dropWhile (· = '#')
  | text => text

/-- The token without the punctuation around it and with at most one hash in front. -/
def strip (token : Text) : Text :=
  singleHash (Text.dropEndWhile isEndPunctuation (token.dropWhile isFrontPunctuation))

/-- The search word of a token, if stripping leaves anything. -/
def ofToken? (token : Text) : Option Word :=
  match strip token with
  | [] => none
  | value => some ⟨value, token.head? == some '-'⟩

end Word

end ForumQuery
