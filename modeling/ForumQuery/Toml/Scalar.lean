import ForumQuery.Toml.DateTime
import ForumQuery.Toml.Number
import ForumQuery.Toml.Value

/-!
# Scalars of a TOML document

Truth values, numbers, dates and times are written bare, as a run of characters up to a sign of
punctuation or the end of the line. The run as a whole decides which of them it is. Other scalars are
strings between quotes.
-/

namespace ForumQuery.Toml

/-- Characters that end a bare scalar: punctuation, comments and line ends. -/
def endsScalar (c : Char) : Bool :=
  ['=', ',', '[', ']', '\x7b', '\x7d', '#', '\r', '\n'].contains c

/-- Characters that open a string. -/
def isQuote (c : Char) : Bool :=
  c == '"' || c == '\''

/-- The bare scalar at the front of a text. Space belongs to it only if more of it follows, and a
quote after space does not. -/
def scalarRun : Text → Text
  | [] => []
  | c :: rest =>
      if endsScalar c then []
      else
        let run := scalarRun rest
        if isSpace c && (run.isEmpty || run.head?.any isQuote) then [] else c :: run

/-- The value that a run denotes. -/
def scalarOf? (run : Text) : Option Value :=
  if run = "true".toList then some (.boolean true)
  else if run = "false".toList then some (.boolean false)
  else
    match WholeNumber.ofRun? run with
    | some number =>
        match number.value? with
        | some n => some (.integer n)
        | none => some (.valueless run)
    | none =>
        if isFloat run then some (.float run)
        else if isDateTime run then some (.dateTime run)
        else none

/-- The scalar at the front of a text, quoted or bare, and what follows it. -/
def scalar? (text : Text) : Option (Value × Text) :=
  match text with
  | '"' :: _ | '\'' :: _ => (string? text).map fun (contents, rest) => (.string contents, rest)
  | _ =>
      let run := scalarRun text
      (scalarOf? run).map fun value => (value, text.drop run.length)

end ForumQuery.Toml
