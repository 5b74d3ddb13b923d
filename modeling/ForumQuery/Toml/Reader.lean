import ForumQuery.Toml.Key
import ForumQuery.Toml.Scalar
import ForumQuery.Toml.Table

/-!
# Reading values

Arrays and inline tables hold items with commas between, and maybe one at the end; space, line ends
and comments may stand around each item, and around the equals sign in an inline table. Containers
nest at most eighty deep.
-/

namespace ForumQuery.Toml

/-- The items up to the closing bracket, at most `limit` of them, and what follows it. -/
def items? {α : Type} (close : Char) (item : Text → Option (α × Text)) :
    Nat → Text → Option (List α × Text)
  | 0, _ => none
  | limit + 1, text =>
      match skipLines text with
      | [] => none
      | c :: rest =>
          if c = close then some ([], rest)
          else do
            let (first, rest) ← item (c :: rest)
            match skipLines rest with
            | [] => none
            | d :: rest =>
                if d = ',' then do
                  let (later, rest) ← items? close item limit rest
                  return (first :: later, rest)
                else if d = close then some ([first], rest)
                else none

/-- A key, an equals sign and a value. What may stand around the sign is left out by `skip`. -/
def pair? (skip : Text → Text) (value : Text → Option (Value × Text)) (text : Text) :
    Option ((List Text × Value) × Text) := do
  let (key, rest) ← key? text
  match skip rest with
  | '=' :: rest =>
      let (v, rest) ← value (skip rest)
      return ((key, v), rest)
  | _ => none

/-- The entries of an inline table. -/
def inlineEntries? (pairs : List (List Text × Value)) : Option Entries :=
  pairs.foldlM (fun entries (pair : List Text × Value) => Entries.assign? pair.1 pair.2 entries) []

/-- The value at the front of a text, with containers at most `depth` deep, and what follows it. -/
def valueWithin? : Nat → Text → Option (Value × Text)
  | depth + 1, '[' :: rest => do
      let (elements, rest) ← items? ']' (valueWithin? depth) (rest.length + 1) rest
      return (.array elements, rest)
  | depth + 1, '\x7b' :: rest => do
      let (pairs, rest) ← items? '\x7d' (pair? skipLines (valueWithin? depth)) (rest.length + 1) rest
      let entries ← inlineEntries? pairs
      return (.table .inline entries, rest)
  | _, text => scalar? text

/-- How deep containers may nest. -/
def maxDepth : Nat := 80

/-- The value at the front of a text, and what follows it. -/
def value? (text : Text) : Option (Value × Text) :=
  valueWithin? maxDepth text

end ForumQuery.Toml
