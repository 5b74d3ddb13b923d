import ForumQuery.Flag
import ForumQuery.Id
import ForumQuery.Text.Numeral

/-!
# Filters

Filters narrow a search down to some posts, whatever the terms. Each filter flag sets one of them;
a flag that is excluded, or whose value is not of the kind that its name asks for, is rejected and
sets nothing.
-/

namespace ForumQuery

/-- The two kinds of post. -/
inductive PostType where
  | question
  | answer
  deriving DecidableEq

namespace PostType

/-- The kind in lower case. -/
def text : PostType → Text
  | .question => "question".toList
  | .answer => "answer".toList

/-- The kind of post that a text names, in any ASCII case. -/
def read? (text : Text) : Option PostType :=
  [question, answer].find? fun type => text.sameIgnoringCase type.text

end PostType

/-- The filters of a search. Bounds are inclusive; dates are kept as typed and belong to the time
zone `timeZoneOffset` seconds east of UTC. -/
structure Filters where
  postType : Option PostType := none
  user : Option UserId := none
  parent : Option PostId := none
  ids : List PostId := []
  minVotes : Option Int := none
  maxVotes : Option Int := none
  minAnswers : Option Int := none
  maxAnswers : Option Int := none
  fromDate : Option Text := none
  toDate : Option Text := none
  timeZoneOffset : Int := 0
  deriving DecidableEq

/-- Why a flag sets no filter. -/
inductive Rejection where
  | excludedFilter
  | notPostType
  | notId
  | notInteger
  deriving DecidableEq

/-- The wording of the reason. -/
def Rejection.reason : Rejection → Text
  | .excludedFilter => "filter flags cannot be excluded".toList
  | .notPostType => "expected question or answer".toList
  | .notId => "not an id".toList
  | .notInteger => "not an integer".toList

namespace Filters

/-- Some filter other than the time zone is set. A date that is set to the empty text counts. -/
def isNarrowing (filters : Filters) : Bool :=
  filters.postType.isSome || filters.user.isSome || filters.parent.isSome
    || !filters.ids.isEmpty || filters.minVotes.isSome || filters.maxVotes.isSome
    || filters.fromDate.isSome || filters.toDate.isSome || filters.minAnswers.isSome
    || filters.maxAnswers.isSome

/-- The same filters are set to the same values, in the same time zone. -/
def agree (left right : Filters) : Bool :=
  left.postType == right.postType && left.user == right.user && left.parent == right.parent
    && left.ids == right.ids && left.minVotes == right.minVotes && left.maxVotes == right.maxVotes
    && left.minAnswers == right.minAnswers && left.maxAnswers == right.maxAnswers
    && left.fromDate == right.fromDate && left.toDate == right.toDate
    && left.timeZoneOffset == right.timeZoneOffset

/-- The count that a text gives: a whole number of 64 bits. -/
def readCount (text : Text) : Except Rejection Int :=
  match Text.Interval.signed64.read? text with
  | some count => .ok count
  | none => .error .notInteger

/-- The identifier that a text gives. -/
def readId (kind : IdKind) (text : Text) : Except Rejection (Id kind) :=
  (Id.read kind text).mapError fun _ => .notId

/-- The kind of post that a text gives. -/
def readPostType (text : Text) : Except Rejection PostType :=
  match PostType.read? text with
  | some type => .ok type
  | none => .error .notPostType

/-- The filters after one more included flag. A flag for the text of a field sets no filter. -/
def set (filters : Filters) (name : FlagName) (value : Text) : Except Rejection Filters :=
  match name with
  | .is => (readPostType value).map fun type => { filters with postType := some type }
  | .user => (readId .user value).map fun id => { filters with user := some id }
  | .inQuestion => (readId .post value).map fun id => { filters with parent := some id }
  | .minVotes => (readCount value).map fun count => { filters with minVotes := some count }
  | .maxVotes => (readCount value).map fun count => { filters with maxVotes := some count }
  | .minAnswers => (readCount value).map fun count => { filters with minAnswers := some count }
  | .maxAnswers => (readCount value).map fun count => { filters with maxAnswers := some count }
  | .fromDate => .ok { filters with fromDate := some value }
  | .toDate => .ok { filters with toDate := some value }
  | .title | .body => .ok filters

/-- The filters after one more flag, which is rejected if it is excluded. -/
def apply (filters : Filters) (flag : Flag) : Except Rejection Filters :=
  if flag.excluded then .error .excludedFilter else filters.set flag.name flag.value

/-- Filters that agree differ in nothing. -/
theorem agree_iff {left right : Filters} : left.agree right = true ↔ left = right := by
  cases left
  cases right
  simp [agree, and_assoc]

end Filters

end ForumQuery
