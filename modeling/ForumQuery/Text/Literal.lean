import ForumQuery.Text.Basic
import ForumQuery.Text.Extender
import ForumQuery.Text.Unprintable

/-!
# Literals

A literal shows a text between double quotes on one line: the two characters that would end or
bend the literal are escaped by a backslash, the common controls have a letter of their own, and a
character that has no visible form, or would attach to its neighbour, is shown by its code point.
-/

namespace ForumQuery.Text

/-- A character by its code point in lower-case hexadecimal, without leading zeros. -/
def codePoint (c : Char) : Text :=
  ['\\', 'u', '\x7b'] ++ Nat.toDigits 16 c.toNat ++ ['\x7d']

/-- The form of one character inside a literal. -/
def literalChar (c : Char) : Text :=
  if c = '\x00' then ['\\', '0']
  else if c = '\t' then ['\\', 't']
  else if c = '\n' then ['\\', 'n']
  else if c = '\r' then ['\\', 'r']
  else if c = '"' ∨ c = '\\' then ['\\', c]
  else if isExtender c || isUnprintable c then codePoint c
  else [c]

/-- The text between double quotes with its characters in literal form. -/
def literal (text : Text) : Text :=
  '"' :: text.flatMap literalChar ++ ['"']

end ForumQuery.Text
