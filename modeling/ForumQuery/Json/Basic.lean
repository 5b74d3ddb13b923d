import ForumQuery.Text.Numeral

/-!
# JSON documents

A document is written over several lines, two spaces further in at each level, with the fields of an
object in their given order. An empty array or object stays on one line. In strings only the double
quote, the backslash and the controls below the space are escaped.
-/

namespace ForumQuery

/-- A JSON value whose numbers are whole. -/
inductive Json where
  | null
  | boolean (b : Bool)
  | integer (n : Int)
  | string (contents : Text)
  | array (elements : List Json)
  | object (fields : List (Text × Json))

namespace Json

/-- A code point below 256 by four hexadecimal digits. -/
def unicodeEscape (c : Char) : Text :=
  ['\\', 'u', '0', '0', Nat.digitChar (c.toNat / 16), Nat.digitChar (c.toNat % 16)]

/-- The form of one character inside a string. -/
def stringChar (c : Char) : Text :=
  if c = '"' ∨ c = '\\' then ['\\', c]
  else if c = '\x08' then ['\\', 'b']
  else if c = '\t' then ['\\', 't']
  else if c = '\n' then ['\\', 'n']
  else if c = '\x0c' then ['\\', 'f']
  else if c = '\r' then ['\\', 'r']
  else if c < ' ' then unicodeEscape c
  else [c]

/-- A string between double quotes. -/
def quoted (contents : Text) : Text :=
  '"' :: contents.flatMap stringChar ++ ['"']

/-- The start of a line at the given level. -/
def lineAt (level : Nat) : Text :=
  '\n' :: List.replicate (2 * level) ' '

mutual
/-- The text of a value whose last line stands at the given level. -/
def pretty (level : Nat) : Json → Text
  | .null => "null".toList
  | .boolean true => "true".toList
  | .boolean false => "false".toList
  | .integer n => Text.decimal n
  | .string contents => quoted contents
  | .array [] => ['[', ']']
  | .array (first :: rest) =>
      '[' :: lineAt (level + 1) ++ pretty (level + 1) first ++ prettyElements (level + 1) rest
        ++ lineAt level ++ [']']
  | .object [] => ['\x7b', '\x7d']
  | .object ((key, value) :: rest) =>
      '\x7b' :: lineAt (level + 1) ++ quoted key ++ [':', ' '] ++ pretty (level + 1) value
        ++ prettyFields (level + 1) rest ++ lineAt level ++ ['\x7d']

/-- The further elements of an array, each after a comma on a line of its own. -/
def prettyElements (level : Nat) : List Json → Text
  | [] => []
  | element :: rest => ',' :: lineAt level ++ pretty level element ++ prettyElements level rest

/-- The further fields of an object, each after a comma on a line of its own. -/
def prettyFields (level : Nat) : List (Text × Json) → Text
  | [] => []
  | (key, value) :: rest =>
      ',' :: lineAt level ++ quoted key ++ [':', ' '] ++ pretty level value
        ++ prettyFields level rest
end

/-- The text of a document, without a line end after it. -/
def text (document : Json) : Text :=
  pretty 0 document

end Json

end ForumQuery
