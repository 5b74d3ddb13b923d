import ForumQuery.Text.Basic

/-!
# Flags

A flag is a token such as `user:ID` that asks for a filter, or gives text for one field of a post.
Its name is one of eleven in any ASCII case; a dash in front excludes.
-/

namespace ForumQuery

/-- What a flag is about. -/
inductive FlagName where
  | is
  | user
  | minVotes
  | maxVotes
  | body
  | fromDate
  | toDate
  | minAnswers
  | maxAnswers
  | title
  | inQuestion
  deriving DecidableEq

namespace FlagName

/-- All flag names. -/
def all : List FlagName :=
  [.is, .user, .minVotes, .maxVotes, .body, .fromDate, .toDate, .minAnswers, .maxAnswers, .title,
    .inQuestion]

/-- The name as it is typed, in lower case. -/
def text : FlagName → Text
  | .is => "is".toList
  | .user => "user".toList
  | .minVotes => "minvotes".toList
  | .maxVotes => "maxvotes".toList
  | .body => "body".toList
  | .fromDate => "from".toList
  | .toDate => "to".toList
  | .minAnswers => "minanswers".toList
  | .maxAnswers => "maxanswers".toList
  | .title => "title".toList
  | .inQuestion => "inquestion".toList

/-- The flag name that a text spells, in any ASCII case. -/
def read? (text : Text) : Option FlagName :=
  all.find? fun name => text.sameIgnoringCase name.text

theorem mem_all (name : FlagName) : name ∈ all := by
  cases name <;> simp [all]

end FlagName

/-- A flag with its value. -/
structure Flag where
  name : FlagName
  value : Text
  excluded : Bool
  deriving DecidableEq

namespace Flag

/-- The value without the two double quotes around it. Text that does not both start and end with
a quote of its own is left alone. -/
def unquote (text : Text) : Text :=
  match text with
  | '"' :: rest => if rest.getLast? = some '"' then rest.dropLast else text
  | _ => text

/-- The beginning of a token read as a flag, and the text after the first colon. -/
structure Head where
  name : FlagName
  excluded : Bool
  suffix : Text
  deriving DecidableEq

/-- A token is shaped like a flag if it has a colon and the text before the first one, less one
dash in front, is a flag name. -/
def head? (token : Text) : Option Head :=
  match token.dropWhile (· ≠ ':') with
  | [] => none
  | _ :: suffix =>
      match token.takeWhile (· ≠ ':') with
      | '-' :: name => (FlagName.read? name).map fun name => ⟨name, true, suffix⟩
      | name => (FlagName.read? name).map fun name => ⟨name, false, suffix⟩

/-- The flag that a head and the text of a value make. -/
def Head.flag (head : Head) (value : Text) : Flag :=
  ⟨head.name, unquote value, head.excluded⟩

end Flag

end ForumQuery
