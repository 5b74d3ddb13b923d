import ForumQuery.Toml.Reader

/-!
# TOML documents

A document is a list of statements, one a line: a key gets a value, or a header names the table to
which the keys after it belong. Reading gives the entries of the outermost table.
-/

namespace ForumQuery.Toml

/-- One line of a document. -/
inductive Statement where
  | assign (key : List Text) (value : Value)
  | header (key : List Text)
  | arrayHeader (key : List Text)

/-- The text after a closing bracket. -/
def closed? : Text → Option Text
  | ']' :: rest => some rest
  | _ => none

/-- The statement at the front of a text, and what follows it. -/
def statement? (text : Text) : Option (Statement × Text) :=
  match text with
  | '[' :: '[' :: rest => do
      let (key, rest) ← key? (skipSpace rest)
      let rest ← closed? rest
      let rest ← closed? rest
      return (.arrayHeader key, rest)
  | '[' :: rest => do
      let (key, rest) ← key? (skipSpace rest)
      let rest ← closed? rest
      return (.header key, rest)
  | _ => do
      let ((key, value), rest) ← pair? skipSpace value? text
      return (.assign key value, rest)

/-- The statements of a text, at most `limit` of them. -/
def statementsWithin? : Nat → Text → Option (List Statement)
  | 0, _ => none
  | limit + 1, text =>
      match skipLines text with
      | [] => some []
      | start => do
          let (first, rest) ← statement? start
          let rest ← endLine? rest
          let later ← statementsWithin? limit rest
          return first :: later

/-- The statements of a document. A byte order mark in front is no part of it. Each statement takes a
character of the text, so its length bounds their number. -/
def statements? (text : Text) : Option (List Statement) :=
  let body := if text.head? = some '\ufeff' then text.tail else text
  statementsWithin? (body.length + 1) body

/-- A document in the making: the entries so far, and the header in force. -/
structure Draft where
  entries : Entries := []
  current : List Text := []

/-- The document after one more statement. -/
def Draft.add? (draft : Draft) : Statement → Option Draft
  | .assign key value => do
      let entries ← draft.entries.within? draft.current (Entries.assign? key value)
      return { draft with entries := entries }
  | .header key => do
      let name ← key.getLast?
      let entries ← draft.entries.within? key.dropLast (Entries.open? name)
      return ⟨entries, key⟩
  | .arrayHeader key => do
      let name ← key.getLast?
      let entries ← draft.entries.within? key.dropLast (Entries.append? name)
      return ⟨entries, key⟩

/-- The entries of the outermost table of a document. -/
def read? (text : Text) : Option Entries := do
  let statements ← statements? text
  let draft ← statements.foldlM Draft.add? {}
  return draft.entries

end ForumQuery.Toml
