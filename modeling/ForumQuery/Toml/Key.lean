import ForumQuery.Toml.Quoted

/-!
# Keys of a TOML document

A key is one or more parts with dots between, around which space may stand. A part is bare, made
of ASCII letters, digits, underscores and dashes, or a string on one line. A key has at most eighty
parts.
-/

namespace ForumQuery.Toml

/-- Characters of a bare part of a key. -/
def isBareChar (c : Char) : Bool :=
  c.isAlphanum || c == '_' || c == '-'

/-- One part of a key, and what follows it. -/
def keyPart? (text : Text) : Option (Text × Text) :=
  match text with
  | '"' :: rest => basicString? rest
  | '\'' :: rest => literalString? rest
  | _ =>
      match text.takeWhile isBareChar with
      | [] => none
      | part => some (part, text.drop part.length)

/-- The parts of a key of at most `limit` parts, and what follows the space after it. -/
def keyParts? : Nat → Text → Option (List Text × Text)
  | 0, _ => none
  | limit + 1, text => do
      let (part, rest) ← keyPart? text
      match skipSpace rest with
      | '.' :: rest =>
          let (parts, rest) ← keyParts? limit (skipSpace rest)
          return (part :: parts, rest)
      | rest => return ([part], rest)

/-- How many parts a key may have. -/
def maxKeyParts : Nat := 80

/-- The parts of the key at the front of a text, and what follows the space after it. -/
def key? (text : Text) : Option (List Text × Text) :=
  keyParts? maxKeyParts text

end ForumQuery.Toml
