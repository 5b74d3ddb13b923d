import ForumQuery.Text.Basic

/-!
# Values of a TOML document

Only whole numbers, truth values and the two kinds of containers are read for their meaning. Other
scalars keep the text that they were written with.
-/

namespace ForumQuery.Toml

/-- How a table came to be, which decides who may still add to it. -/
inductive Origin where
  /-- Named by a header of its own. -/
  | header
  /-- Named only as a part of the name of a later header. -/
  | implied
  /-- Named by a dotted key. -/
  | dotted
  /-- Written between braces, and complete there. -/
  | inline
  deriving DecidableEq

/-- A value. Tables keep their entries in the order of the document. -/
inductive Value where
  | integer (n : Int)
  /-- Has the form of a whole number and denotes none. -/
  | valueless (written : Text)
  | boolean (b : Bool)
  | string (contents : Text)
  | float (written : Text)
  | dateTime (written : Text)
  | array (elements : List Value)
  | table (origin : Origin) (entries : List (Text × Value))
  /-- The tables under headers of one name in double brackets. -/
  | tables (elements : List (List (Text × Value)))

/-- The entries of a table. -/
abbrev Entries := List (Text × Value)

/-- The value of a key. -/
def Entries.get? (entries : Entries) (key : Text) : Option Value :=
  (entries.find? fun entry => entry.1 = key).map Prod.snd

end ForumQuery.Toml
