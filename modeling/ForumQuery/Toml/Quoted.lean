import ForumQuery.Toml.Space

/-!
# Strings of a TOML document

A string stands between double quotes, with escapes, or between single quotes, without any. Three
quotes on either side make a string that may run over several lines.

Each reader here starts after the opening quotes and gives the contents and what follows the closing
quotes.
-/

namespace ForumQuery.Toml

/-- The value of a hexadecimal digit. -/
def hexDigit? (c : Char) : Option Nat :=
  if c.isDigit then some (c.toNat - '0'.toNat)
  else if 'a' ≤ c ∧ c ≤ 'f' then some (c.toNat - 'a'.toNat + 10)
  else if 'A' ≤ c ∧ c ≤ 'F' then some (c.toNat - 'A'.toNat + 10)
  else none

/-- The number that hexadecimal digits denote. -/
def hexNumber? (digits : Text) : Option Nat :=
  digits.foldlM (fun n c => (hexDigit? c).map (16 * n + ·)) 0

/-- The character with the code point that hexadecimal digits denote. Halves of surrogate pairs
are no characters. -/
def hexChar? (digits : Text) : Option Char := do
  let n ← hexNumber? digits
  if n.isValidChar then some (Char.ofNat n) else none

/-- The character that a letter or sign after a backslash stands for. -/
def escaped? : Char → Option Char
  | 'b' => some '\x08'
  | 't' => some '\t'
  | 'n' => some '\n'
  | 'f' => some '\x0c'
  | 'r' => some '\r'
  | 'e' => some '\x1b'
  | '"' => some '"'
  | '\\' => some '\\'
  | _ => none

/-- With one more character in front of the contents. -/
def withChar (c : Option Char) (later : Option (Text × Text)) : Option (Text × Text) := do
  let c ← c
  let (contents, rest) ← later
  return (c :: contents, rest)

/-- A string on one line, with escapes. -/
def basicString? : Text → Option (Text × Text)
  | [] => none
  | '"' :: rest => some ([], rest)
  | '\\' :: 'x' :: a :: b :: rest => withChar (hexChar? [a, b]) (basicString? rest)
  | '\\' :: 'u' :: a :: b :: c :: d :: rest => withChar (hexChar? [a, b, c, d]) (basicString? rest)
  | '\\' :: 'U' :: a :: b :: c :: d :: e :: f :: g :: h :: rest =>
      withChar (hexChar? [a, b, c, d, e, f, g, h]) (basicString? rest)
  | '\\' :: c :: rest => withChar (escaped? c) (basicString? rest)
  | c :: rest => if isContent c then withChar (some c) (basicString? rest) else none

/-- A string on one line, without escapes. -/
def literalString? : Text → Option (Text × Text)
  | [] => none
  | '\'' :: rest => some ([], rest)
  | c :: rest => if isContent c then withChar (some c) (literalString? rest) else none

/-- Where a reader of a string of several lines stands. -/
inductive LineMode where
  /-- Among the contents. -/
  | contents
  /-- After a backslash and space, in want of a line end. -/
  | beforeBreak
  /-- After a backslash at a line end: space and line ends are left out. -/
  | afterBreak
  deriving DecidableEq

/-- A string of several lines, with escapes. Up to two quotes may stand before the closing three. -/
def longBasicString? : LineMode → Text → Option (Text × Text)
  | _, [] => none
  | .beforeBreak, '\n' :: rest => longBasicString? .afterBreak rest
  | .beforeBreak, '\r' :: '\n' :: rest => longBasicString? .afterBreak rest
  | .beforeBreak, c :: rest => if isSpace c then longBasicString? .beforeBreak rest else none
  | .afterBreak, '\n' :: rest => longBasicString? .afterBreak rest
  | .afterBreak, '\r' :: '\n' :: rest => longBasicString? .afterBreak rest
  | .afterBreak, ' ' :: rest => longBasicString? .afterBreak rest
  | .afterBreak, '\t' :: rest => longBasicString? .afterBreak rest
  | _, '"' :: '"' :: '"' :: '"' :: '"' :: rest => some (['"', '"'], rest)
  | _, '"' :: '"' :: '"' :: '"' :: rest => some (['"'], rest)
  | _, '"' :: '"' :: '"' :: rest => some ([], rest)
  | _, '\\' :: '\n' :: rest => longBasicString? .afterBreak rest
  | _, '\\' :: '\r' :: '\n' :: rest => longBasicString? .afterBreak rest
  | _, '\\' :: ' ' :: rest => longBasicString? .beforeBreak rest
  | _, '\\' :: '\t' :: rest => longBasicString? .beforeBreak rest
  | _, '\\' :: 'x' :: a :: b :: rest =>
      withChar (hexChar? [a, b]) (longBasicString? .contents rest)
  | _, '\\' :: 'u' :: a :: b :: c :: d :: rest =>
      withChar (hexChar? [a, b, c, d]) (longBasicString? .contents rest)
  | _, '\\' :: 'U' :: a :: b :: c :: d :: e :: f :: g :: h :: rest =>
      withChar (hexChar? [a, b, c, d, e, f, g, h]) (longBasicString? .contents rest)
  | _, '\\' :: c :: rest => withChar (escaped? c) (longBasicString? .contents rest)
  | _, '\n' :: rest => withChar (some '\n') (longBasicString? .contents rest)
  | _, '\r' :: '\n' :: rest => withChar (some '\n') (longBasicString? .contents rest)
  | _, c :: rest =>
      if isContent c then withChar (some c) (longBasicString? .contents rest) else none

/-- A string of several lines, without escapes. -/
def longLiteralString? : Text → Option (Text × Text)
  | [] => none
  | '\'' :: '\'' :: '\'' :: '\'' :: '\'' :: rest => some (['\'', '\''], rest)
  | '\'' :: '\'' :: '\'' :: '\'' :: rest => some (['\''], rest)
  | '\'' :: '\'' :: '\'' :: rest => some ([], rest)
  | '\n' :: rest => withChar (some '\n') (longLiteralString? rest)
  | '\r' :: '\n' :: rest => withChar (some '\n') (longLiteralString? rest)
  | c :: rest => if isContent c then withChar (some c) (longLiteralString? rest) else none

/-- The text after a line end directly after the opening quotes, which is no part of the contents. -/
def skipFirstBreak : Text → Text
  | '\n' :: rest => rest
  | '\r' :: '\n' :: rest => rest
  | text => text

/-- The string at the front of a text, and what follows it. -/
def string? : Text → Option (Text × Text)
  | '"' :: '"' :: '"' :: rest => longBasicString? .contents (skipFirstBreak rest)
  | '\'' :: '\'' :: '\'' :: rest => longLiteralString? (skipFirstBreak rest)
  | '"' :: rest => basicString? rest
  | '\'' :: rest => literalString? rest
  | _ => none

end ForumQuery.Toml
