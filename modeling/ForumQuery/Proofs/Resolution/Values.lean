import ForumQuery.Filters
import ForumQuery.Proofs.Text.Numerals
import ForumQuery.Proofs.Text.Spelling

/-!
# What the values of flags denote

The flags of one name take values of one kind. `FlagName.Denotes` says which text denotes which
value, and `FlagName.value?` reads it. `FlagName.value_iff` says that reading finds exactly the
value that a text denotes, and none if it denotes nothing.
-/

namespace ForumQuery

/-- The text is the name of the kind of post, in any ASCII case. -/
def DenotesPostType (text : Text) (type : PostType) : Prop :=
  text.map Char.toLower = type.text

/-- The text is the identifier: 26 ASCII letters and digits. -/
def DenotesId {kind : IdKind} (text : Text) (id : Id kind) : Prop :=
  text.length = 26 ∧ (∀ c ∈ text, c.isAlphanum = true) ∧ id.text = text

/-- The text denotes the number in decimal, and the number has 64 bits. -/
def DenotesCount (text : Text) (count : Int) : Prop :=
  Text.Numeral text count ∧ -9223372036854775808 ≤ count ∧ count ≤ 9223372036854775807

namespace FlagName

/-- What the flags of a name ask for. -/
abbrev Value : FlagName → Type
  | .is => PostType
  | .user => UserId
  | .inQuestion => PostId
  | .minVotes | .maxVotes | .minAnswers | .maxAnswers => Int
  | .fromDate | .toDate | .title | .body => Text

/-- The text denotes the value in a flag of the name. Dates and the texts of fields are kept as
typed, so any text denotes itself. -/
def Denotes : (name : FlagName) → Text → name.Value → Prop
  | .is => DenotesPostType
  | .user | .inQuestion => DenotesId
  | .minVotes | .maxVotes | .minAnswers | .maxAnswers => DenotesCount
  | .fromDate | .toDate | .title | .body => fun text value => value = text

/-- The value that the text denotes in a flag of the name. -/
def value? : (name : FlagName) → Text → Option name.Value
  | .is => PostType.read?
  | .user => fun text => (Id.read .user text).toOption
  | .inQuestion => fun text => (Id.read .post text).toOption
  | .minVotes | .maxVotes | .minAnswers | .maxAnswers => Text.Interval.signed64.read?
  | .fromDate | .toDate | .title | .body => some

end FlagName

/-- The reader of kinds of post finds what the text names. -/
theorem read_post_type_iff {text : Text} {type : PostType} :
    PostType.read? text = some type ↔ DenotesPostType text type := by
  apply Text.find_spelled_iff
  · intro type
    cases type <;> simp
  · intro type
    cases type <;> decide
  · intro type other h
    cases type <;> cases other <;> first | rfl | exact absurd h (by decide)

/-- The reader of identifiers finds the identifier that the text is. -/
theorem read_id_iff {kind : IdKind} {text : Text} {id : Id kind} :
    (Id.read kind text).toOption = some id ↔ DenotesId text id := by
  have hvalid : isId text = true ↔ text.length = 26 ∧ ∀ c ∈ text, c.isAlphanum = true := by
    simp [isId]
  constructor
  · intro h
    unfold Id.read at h
    split at h
    · next hid =>
        obtain rfl := Option.some.inj h
        exact ⟨(hvalid.1 hid).1, (hvalid.1 hid).2, rfl⟩
    · simp [Except.toOption] at h
  · rintro ⟨_, _, rfl⟩
    rw [Id.read_text, Except.toOption]

/-- The reader of counts finds the number that the text denotes. -/
theorem read_count_iff {text : Text} {count : Int} :
    Text.Interval.signed64.read? text = some count ↔ DenotesCount text count :=
  Text.Interval.read_iff

/-- Reading the value of a flag finds what its text denotes. -/
theorem FlagName.value_iff (name : FlagName) {text : Text} {value : name.Value} :
    name.value? text = some value ↔ name.Denotes text value := by
  cases name with
  | is => exact read_post_type_iff
  | user | inQuestion => exact read_id_iff
  | minVotes | maxVotes | minAnswers | maxAnswers => exact read_count_iff
  | fromDate | toDate | title | body => exact Option.some_inj.trans eq_comm

end ForumQuery
