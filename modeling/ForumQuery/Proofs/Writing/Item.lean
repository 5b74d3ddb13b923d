import ForumQuery.Proofs.Extraction.Heads
import ForumQuery.Proofs.Resolution.Values
import ForumQuery.SearchRecord
import ForumQuery.Word

/-!
# What a query can ask for, and how it is written

A query is a list of items in any order: words, phrases, tags, texts for a field, and scalar
filters. `write` gives its text, one space between neighbours. `records` gives the search records
that it asks for, told from the items alone: no part of reading enters into it.
-/

namespace ForumQuery.Writing

/-- A text that can stand between two quotes. -/
structure Quotable where
  text : Text
  quoteFree : '"' ∉ text

/-- A word that is written as it is: nothing in it is cut or stripped, and it is read neither as a
tag nor as a flag. -/
structure PlainWord where
  text : Text
  nonempty : text ≠ []
  unbroken : ∀ c ∈ text, Text.isBlank c = false
  quoteFree : '"' ∉ text
  kept : (Word.ofToken? text).map Word.value = some text
  notTag : Tag.isTag text = false
  notFlag : ':' ∈ text →
    ∀ name : FlagName, (text.takeWhile (· ≠ ':')).map Char.toLower ≠ name.text

/-- What can follow the hash of a tag. -/
structure TagName where
  text : Text
  valid : Tag.isTag ('#' :: text) = true

/-- A text to be found in a field, or to be absent from it. -/
structure FieldText extends Quotable where
  nonempty : text ≠ []

/-- The fields that have flags of their own. -/
inductive TextField where
  | title
  | body

/-- The bounds on counts. -/
inductive CountBound where
  | minVotes
  | maxVotes
  | minAnswers
  | maxAnswers
  deriving DecidableEq

/-- The bounds on dates. -/
inductive DateBound where
  | fromDate
  | toDate
  deriving DecidableEq

def TextField.field : TextField → Field
  | .title => .title
  | .body => .body

def TextField.flagName : TextField → FlagName
  | .title => .title
  | .body => .body

def CountBound.flagName : CountBound → FlagName
  | .minVotes => .minVotes
  | .maxVotes => .maxVotes
  | .minAnswers => .minAnswers
  | .maxAnswers => .maxAnswers

def DateBound.flagName : DateBound → FlagName
  | .fromDate => .fromDate
  | .toDate => .toDate

/-- One thing that a query asks for. Terms can be excluded, filters cannot. -/
inductive Item where
  | word (excluded : Bool) (value : PlainWord)
  | phrase (excluded : Bool) (value : Quotable)
  | tag (excluded : Bool) (value : TagName)
  | fieldText (field : TextField) (excluded : Bool) (value : FieldText)
  | postType (value : PostType)
  | user (value : UserId)
  | inQuestion (value : PostId)
  | count (bound : CountBound) (value : Int64)
  | date (bound : DateBound) (value : Quotable)

/-- How the item is written. -/
def Item.text : Item → Text
  | .word excluded value => Flag.sign excluded ++ value.text
  | .phrase excluded value => Flag.sign excluded ++ value.text.quoted
  | .tag excluded value => Flag.sign excluded ++ '#' :: value.text
  | .fieldText field excluded value =>
      Flag.sign excluded ++ field.flagName.text ++ ':' :: value.text.quoted
  | .postType value => "is:".toList ++ value.text
  | .user value => "user:".toList ++ value.text
  | .inQuestion value => "inquestion:".toList ++ value.text
  | .count bound value => bound.flagName.text ++ ':' :: Text.decimal value.toInt
  | .date bound value => bound.flagName.text ++ ':' :: value.text.quoted

/-- How a query is written. -/
def write (items : List Item) : Text :=
  Text.joined (items.map Item.text)

/-- A term that an item asks for in a field, or wants to be absent from it. -/
structure Term where
  field : Field
  excluded : Bool
  text : Text

/-- The term of an item. A phrase keeps its quotes, and a tag has no hash. -/
def Item.term? : Item → Option Term
  | .word excluded value => some ⟨.plain, excluded, value.text⟩
  | .phrase excluded value => some ⟨.plain, excluded, value.text.quoted⟩
  | .tag excluded value => some ⟨.tag, excluded, value.text⟩
  | .fieldText field excluded value => some ⟨field.field, excluded, value.text⟩
  | _ => none

/-- The texts of the terms in one field on one side, in order. -/
def texts (field : Field) (excluded : Bool) (items : List Item) : List Text :=
  ((items.filterMap Item.term?).filter fun term =>
    term.field = field ∧ term.excluded = excluded).map Term.text

/-- The terms in one field, with one space between neighbours. -/
def terms (field : Field) (items : List Item) : Terms where
  included := Text.joined (texts field false items)
  excluded := Text.joined (texts field true items)

/-- What an item asks for under the name of a flag: a filter, or a text to be found in a field. -/
def Item.asked : (name : FlagName) → Item → Option name.Value
  | .is, .postType value => some value
  | .user, .user value => some value
  | .inQuestion, .inQuestion value => some value
  | .minVotes, .count .minVotes value => some value.toInt
  | .maxVotes, .count .maxVotes value => some value.toInt
  | .minAnswers, .count .minAnswers value => some value.toInt
  | .maxAnswers, .count .maxAnswers value => some value.toInt
  | .fromDate, .date .fromDate value => some value.text
  | .toDate, .date .toDate value => some value.text
  | .title, .fieldText .title false value => some value.text
  | .body, .fieldText .body false value => some value.text
  | _, _ => none

/-- The last thing that the items ask for under the name of a flag. -/
def last (name : FlagName) (items : List Item) : Option name.Value :=
  (items.filterMap (Item.asked name)).getLast?

/-- The item asks for something that only questions have: a tag, a title or a number of answers. -/
def Item.forQuestions : Item → Bool
  | .tag .. => true
  | .fieldText .title .. => true
  | .count .minAnswers _ => true
  | .count .maxAnswers _ => true
  | _ => false

/-- The kind of post that the items ask for. -/
def postType (items : List Item) : Option PostType :=
  if items.any Item.forQuestions then some .question else last .is items

/-- The filters that the items ask for: of each sort the last one. Among questions, a parent is
itself the question looked for. -/
def filters (items : List Item) (offset : Int) : Filters where
  postType := postType items
  user := last .user items
  parent := last .inQuestion items
  ids := if postType items = some .question then (last .inQuestion items).toList else []
  minVotes := last .minVotes items
  maxVotes := last .maxVotes items
  minAnswers := last .minAnswers items
  maxAnswers := last .maxAnswers items
  fromDate := last .fromDate items
  toDate := last .toDate items
  timeZoneOffset := offset

/-- The fields in which the items ask for terms, in the order of the records. -/
def fields (items : List Item) : List Field :=
  [.plain, .tag, .body, .title].filter fun field =>
    (items.filterMap Item.term?).any fun term => term.field = field

/-- The records that the items ask for: one for each field with terms, or a single one without
terms if there are only filters. -/
def records (items : List Item) (offset : Int) : List SearchRecord :=
  if items = [] then []
  else if fields items = [] then [⟨{}, none, filters items offset⟩]
  else (fields items).map fun field => ⟨terms field items, some field, filters items offset⟩

end ForumQuery.Writing
