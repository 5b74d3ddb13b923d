import ForumQuery.Text.Basic

/-!
# Space between the parts of a TOML document

Within a line only spaces and tabs separate. A line ends at a line feed, with or without a carriage
return before it, and a comment runs from a hash to the end of its line.
-/

namespace ForumQuery.Toml

/-- Space within a line. -/
def isSpace (c : Char) : Bool :=
  c == ' ' || c == '\t'

/-- The text after the space in front. -/
def skipSpace (text : Text) : Text :=
  text.dropWhile isSpace

/-- Characters that may stand in a comment or a string: no control but the tab. -/
def isContent (c : Char) : Bool :=
  c == '\t' || (decide (' ' ≤ c) && c != '\x7f')

/-- The text after space, line ends and comments in front. The flag says that a comment is open. A
character that may not stand in a comment is left in front. -/
def skipLinesFrom : Bool → Text → Text
  | _, [] => []
  | _, '\n' :: rest => skipLinesFrom false rest
  | _, '\r' :: '\n' :: rest => skipLinesFrom false rest
  | true, c :: rest => if isContent c then skipLinesFrom true rest else c :: rest
  | false, c :: rest =>
      if c = '#' then skipLinesFrom true rest
      else if isSpace c then skipLinesFrom false rest
      else c :: rest

/-- The text after space, line ends and comments in front. -/
def skipLines (text : Text) : Text :=
  skipLinesFrom false text

/-- The text after a line end in front, or the empty text at the end of the document. -/
def lineEnd? : Text → Option Text
  | [] => some []
  | '\n' :: rest => some rest
  | '\r' :: '\n' :: rest => some rest
  | _ => none

/-- The text after the rest of a line that holds nothing but space and a comment. -/
def endLine? (text : Text) : Option Text :=
  match skipSpace text with
  | '#' :: rest => lineEnd? (rest.dropWhile isContent)
  | rest => lineEnd? rest

end ForumQuery.Toml
