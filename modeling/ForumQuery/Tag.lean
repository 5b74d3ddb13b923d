import ForumQuery.Text.Basic
import ForumQuery.Text.DecimalDigit
import ForumQuery.Text.Letter

/-!
# Tags

A tag is a hash and a name of at least two characters. The name starts with a letter, ends with a
letter or decimal digit, and has letters, decimal digits and underscores between.
-/

namespace ForumQuery.Tag

/-- Characters inside a tag name. -/
def isNameChar (c : Char) : Bool :=
  Text.isLetter c || Text.isDecimalDigit c || c == '_'

/-- Characters at the end of a tag name. -/
def isLastChar (c : Char) : Bool :=
  Text.isLetter c || Text.isDecimalDigit c

/-- A text that can stand after the hash of a tag. -/
def isName : Text → Bool
  | [] => false
  | c :: rest => Text.isLetter c && rest.all isNameChar && rest.getLast?.any isLastChar

/-- The name of a tag, without its hash. -/
def name? : Text → Option Text
  | '#' :: name => if isName name then some name else none
  | _ => none

/-- A text of the shape of a tag. -/
def isTag (text : Text) : Bool :=
  (name? text).isSome

end ForumQuery.Tag
