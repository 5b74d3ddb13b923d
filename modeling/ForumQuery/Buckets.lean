import ForumQuery.Tag
import ForumQuery.Word

/-!
# Terms

Terms of one kind are gathered into two texts, the included and the excluded ones, with one space
between neighbours. Search words go into the pair for tags if they have the shape of a tag, and
into the pair for plain words otherwise.
-/

namespace ForumQuery

namespace Text

/-- The text with one more term at its end, set off by a space. An empty term leaves no trace. -/
def addTerm (bucket term : Text) : Text :=
  if term = [] then bucket
  else if bucket = [] then term
  else bucket ++ ' ' :: term

end Text

/-- Terms of one kind: those that must occur and those that must not. -/
structure Terms where
  included : Text := []
  excluded : Text := []
  deriving DecidableEq

namespace Terms

/-- With one more term on the side that it belongs to. -/
def add (terms : Terms) (term : Text) (excluded : Bool) : Terms :=
  if excluded then
    { terms with excluded := terms.excluded.addTerm term }
  else
    { terms with included := terms.included.addTerm term }

/-- There is a term on either side. -/
def isPresent (terms : Terms) : Bool :=
  !terms.included.isEmpty || !terms.excluded.isEmpty

end Terms

/-- The terms of the search words: plain words and phrases, and names of tags. -/
structure Buckets where
  plain : Terms := {}
  tags : Terms := {}
  deriving DecidableEq

namespace Buckets

/-- With one more word. A tag goes in without its hash. -/
def add (buckets : Buckets) (word : Word) : Buckets :=
  match Tag.name? word.value with
  | some name => { buckets with tags := buckets.tags.add name word.excluded }
  | none => { buckets with plain := buckets.plain.add word.value word.excluded }

/-- The terms of a list of words. -/
def ofWords (words : List Word) : Buckets :=
  words.foldl add {}

end Buckets

end ForumQuery
