import ForumQuery.Proofs.Toml.Documents
import ForumQuery.Settings.Declaration

/-!
# Writing settings files

A settings file gives some of the settings, each by the field of its name, in any order. `LaidOut`
lists the ways to write the limits: with the name of their table in front of each, under a header, or
in an inline table. `IsFileOf` leaves all else open, the space between the signs, blank lines and
comments.
-/

namespace ForumQuery

/-- The settings by name. -/
inductive Setting where
  | timeZoneOffset
  | maxQueryLength
  | maxTermLength
  | requireTerms
  deriving DecidableEq

/-- The settings are in range. The greatest length is that of an unsigned word of 64 bits. -/
structure Settings.IsValid (settings : Settings) : Prop where
  timeZoneOffset : -86399 ≤ settings.timeZoneOffset ∧ settings.timeZoneOffset ≤ 86399
  maxQueryLength : 1 ≤ settings.limits.maxQueryLength ∧
    settings.limits.maxQueryLength ≤ 18446744073709551615
  maxTermLength : 1 ≤ settings.limits.maxTermLength ∧
    settings.limits.maxTermLength ≤ 18446744073709551615

/-- A field of a settings file, in the document itself or in its table of limits. -/
structure FileEntry where
  isLimit : Bool
  field : Toml.Field

namespace Setting

/-- The setting is one of the limits. -/
def isLimit : Setting → Bool
  | timeZoneOffset => false
  | maxQueryLength => true
  | maxTermLength => true
  | requireTerms => true

/-- The key of a setting. -/
def key : Setting → Text
  | timeZoneOffset => Declaration.offsetKey
  | maxQueryLength => LimitName.maxQueryLength.key
  | maxTermLength => LimitName.maxTermLength.key
  | requireTerms => Declaration.requireTermsKey

/-- A setting as it is written in a file: numbers in decimal, and truth values as a word. -/
def written (settings : Settings) : Setting → Text
  | timeZoneOffset => Text.decimal settings.timeZoneOffset
  | maxQueryLength => Text.decimal settings.limits.maxQueryLength
  | maxTermLength => Text.decimal settings.limits.maxTermLength
  | requireTerms => if settings.limits.requireTerms then "true".toList else "false".toList

/-- The value of a setting in a document. -/
def value (settings : Settings) : Setting → Toml.Value
  | timeZoneOffset => .integer settings.timeZoneOffset
  | maxQueryLength => .integer settings.limits.maxQueryLength
  | maxTermLength => .integer settings.limits.maxTermLength
  | requireTerms => .boolean settings.limits.requireTerms

/-- The field of a setting in a file. -/
def entry (settings : Settings) (setting : Setting) : FileEntry :=
  ⟨setting.isLimit, setting.key, setting.written settings⟩

/-- The key and the value of a setting in a document. -/
def valued (settings : Settings) (setting : Setting) : Text × Toml.Value :=
  (setting.key, setting.value settings)

theorem key_inj {left right : Setting} (h : left.key = right.key) : left = right := by
  revert h
  cases left <;> cases right <;> decide

/-- The field of a setting gives its key its value. -/
theorem fills (settings : Settings) (setting : Setting) (depth : Nat) :
    Toml.Fills depth (setting.entry settings).field (setting.valued settings) where
  key := rfl
  bare := by
    show Toml.IsBare setting.key
    cases setting <;> decide
  value := by
    cases setting with
    | timeZoneOffset => exact Toml.denotes_integer depth _
    | maxQueryLength => exact Toml.denotes_integer depth settings.limits.maxQueryLength
    | maxTermLength => exact Toml.denotes_integer depth settings.limits.maxTermLength
    | requireTerms => exact Toml.denotes_boolean depth _

end Setting

/-- Those of the settings that are no limits. -/
def outerNames (names : List Setting) : List Setting :=
  names.filter (!·.isLimit)

/-- Those of the settings that are limits. -/
def limitNames (names : List Setting) : List Setting :=
  names.filter (·.isLimit)

@[simp] theorem mem_outer_names {name : Setting} {names : List Setting} :
    name ∈ outerNames names ↔ name ∈ names ∧ name.isLimit = false := by
  simp [outerNames]

@[simp] theorem mem_limit_names {name : Setting} {names : List Setting} :
    name ∈ limitNames names ↔ name ∈ names ∧ name.isLimit = true := by
  simp [limitNames]

/-- The signs of an entry on a line of its own. A limit has the name of its table in front. -/
def FileEntry.line (entry : FileEntry) : List Text :=
  if entry.isLimit then Declaration.limitsKey :: ['.'] :: entry.field.signs else entry.field.signs

/-- The fields of the document itself. -/
def outerFields (entries : List FileEntry) : List Toml.Field :=
  (entries.filter (!·.isLimit)).map (·.field)

/-- The fields of the table of limits. -/
def limitFields (entries : List FileEntry) : List Toml.Field :=
  (entries.filter (·.isLimit)).map (·.field)

/-- The signs of the header of the table of limits. -/
def limitsHeader : List Text :=
  [['['], Declaration.limitsKey, [']']]

/-- The field of the table of limits, if it is an inline table. -/
def limitsField (table : Text) : Toml.Field :=
  ⟨Declaration.limitsKey, table⟩

/-- `LaidOut entries lines` says that lines of these signs write the entries. -/
inductive LaidOut (entries : List FileEntry) : List (List Text) → Prop where
  /-- Limits have the name of their table in front. -/
  | dotted : LaidOut entries (entries.map FileEntry.line)
  /-- Limits stand under a header, and so behind all else. -/
  | header : LaidOut entries ((outerFields entries).map Toml.Field.signs ++
      limitsHeader :: (limitFields entries).map Toml.Field.signs)
  /-- Limits stand in an inline table, somewhere among the other lines. -/
  | inline {before after table} : outerFields entries = before ++ after →
      Toml.Braced (limitFields entries) table →
      LaidOut entries (before.map Toml.Field.signs ++
        (limitsField table).signs :: after.map Toml.Field.signs)

/-- The text is that of a file with the entries. -/
def IsFileOf (entries : List FileEntry) (text : Text) : Prop :=
  ∃ lines, LaidOut entries lines ∧ Toml.Lines lines text

/-- Entries that are laid out in lines have a file with these lines. -/
theorem LaidOut.is_file {entries : List FileEntry} {lines : List (List Text)}
    (h : LaidOut entries lines) : IsFileOf entries (Toml.document lines) :=
  ⟨lines, h, Toml.lines_document lines⟩

/-- The lines of the entries, with the limits in an inline table in front of all else. -/
def inlineLines (entries : List FileEntry) : List (List Text) :=
  (limitsField (Toml.braced (limitFields entries))).signs ::
    (outerFields entries).map Toml.Field.signs

theorem laid_out_inline (entries : List FileEntry) : LaidOut entries (inlineLines entries) :=
  .inline (List.nil_append _).symm (Toml.braced_braced _)

/-- The keys of the limits. -/
def limitKeys : List Text :=
  [LimitName.maxQueryLength.key, LimitName.maxTermLength.key, Declaration.requireTermsKey]

/-- The keys of the document itself. -/
def outerKeys : List Text :=
  [Declaration.offsetKey, Declaration.limitsKey]

/-- The entry has a key that names nothing where it stands. Its value may be any text. -/
structure FileEntry.IsStray (entry : FileEntry) : Prop where
  bare : Toml.IsBare entry.field.key
  unknown : entry.field.key ∉ if entry.isLimit then limitKeys else outerKeys

/-- The entries of some settings. -/
def Settings.entries (settings : Settings) (names : List Setting) : List FileEntry :=
  names.map (Setting.entry settings)

end ForumQuery
