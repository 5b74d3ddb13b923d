import ForumQuery.Text.Basic

/-!
# Identifiers

Users and posts carry identifiers of 26 ASCII letters and digits. The check is one of form only:
it does not say that anything of that name exists.
-/

namespace ForumQuery

/-- A text of the form of an identifier. -/
def isId (text : Text) : Bool :=
  text.length == 26 && text.all Char.isAlphanum

/-- What an identifier names. -/
inductive IdKind where
  | user
  | post
  deriving DecidableEq

/-- An identifier of a user or of a post. -/
structure Id (kind : IdKind) where
  text : Text
  valid : isId text = true
  deriving DecidableEq

/-- The identifier of a user. -/
abbrev UserId := Id .user

/-- The identifier of a post. -/
abbrev PostId := Id .post

/-- A text that was to be an identifier and is not. -/
structure InvalidId where
  text : Text
  deriving DecidableEq

/-- The wording of the complaint. -/
def InvalidId.message (error : InvalidId) : Text :=
  "invalid id: ".toList ++ error.text

namespace Id

/-- The identifier that a text is. -/
def read (kind : IdKind) (text : Text) : Except InvalidId (Id kind) :=
  if valid : isId text = true then .ok ⟨text, valid⟩ else .error ⟨text⟩

theorem read_text {kind : IdKind} (id : Id kind) : read kind id.text = .ok id := by
  simp [read, id.valid]

end Id

end ForumQuery
