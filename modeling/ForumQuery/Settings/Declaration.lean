import ForumQuery.Calendar.Offset
import ForumQuery.Settings.Basic
import ForumQuery.Toml.Document

/-!
# Settings files

A settings file is a TOML document that declares some of the settings. A key that names no setting,
or a value of the wrong kind, makes the whole file useless; a value out of range is a complaint about
that setting. What the file does not declare keeps its default.
-/

namespace ForumQuery

/-- What a settings file declares. -/
structure Declaration where
  timeZoneOffset : Option Int := none
  maxQueryLength : Option Nat := none
  maxTermLength : Option Nat := none
  requireTerms : Option Bool := none
  deriving DecidableEq

namespace Declaration

/-- The key of the time zone. -/
def offsetKey : Text := "time_zone_offset".toList

/-- The key of the table of limits. -/
def limitsKey : Text := "limits".toList

/-- The key of the demand for terms. -/
def requireTermsKey : Text := "require_terms".toList

/-- An offset is a whole number of 32 bits. -/
def offset? : Toml.Value → Option Int
  | .integer n => if Text.Interval.signed32.holds n then some n else none
  | _ => none

/-- A length is a whole number of 64 bits without a sign. -/
def length? : Toml.Value → Option Nat
  | .integer n => if Text.Interval.unsigned64.holds n then some n.toNat else none
  | _ => none

/-- A truth value. -/
def boolean? : Toml.Value → Option Bool
  | .boolean b => some b
  | _ => none

/-- The value of a key, read by the given reader, if the key is there. -/
def optional? {α : Type} (read : Toml.Value → Option α) (entries : Toml.Entries) (key : Text) :
    Option (Option α) :=
  match entries.get? key with
  | none => some none
  | some value => (read value).map some

/-- All keys are among the given ones. -/
def keysWithin (known : List Text) (entries : Toml.Entries) : Bool :=
  entries.all fun entry => known.contains entry.1

/-- The declaration with the limits that a value gives: a table by their keys, or an array that
gives all three in order. What follows these in the array is ignored. -/
def withLimits? (declared : Declaration) : Toml.Value → Option Declaration
  | .table _ entries =>
      if keysWithin [LimitName.maxQueryLength.key, LimitName.maxTermLength.key, requireTermsKey]
          entries then do
        let query ← optional? length? entries LimitName.maxQueryLength.key
        let term ← optional? length? entries LimitName.maxTermLength.key
        let require ← optional? boolean? entries requireTermsKey
        return { declared with
          maxQueryLength := query, maxTermLength := term, requireTerms := require }
      else none
  | .array (query :: term :: require :: _) => do
      let query ← length? query
      let term ← length? term
      let require ← boolean? require
      return { declared with
        maxQueryLength := some query, maxTermLength := some term, requireTerms := some require }
  | _ => none

/-- The declaration that the entries of a document make. -/
def ofEntries? (entries : Toml.Entries) : Option Declaration :=
  if keysWithin [offsetKey, limitsKey] entries then do
    let offset ← optional? offset? entries offsetKey
    let declared : Declaration := { timeZoneOffset := offset }
    match entries.get? limitsKey with
    | none => return declared
    | some limits => declared.withLimits? limits
  else none

/-- The declaration that a document makes. -/
def read? (text : Text) : Option Declaration :=
  (Toml.read? text).bind ofEntries?

/-- A declared time zone, or the default. -/
def settledOffset (declared : Option Int) (default : Int) : Except SettingsError Int :=
  match declared with
  | none => .ok default
  | some seconds =>
      if Offset.isValid seconds then .ok seconds else .error (.invalidOffset seconds)

/-- A declared length, or the default. -/
def settledLength (limit : LimitName) (declared : Option Nat) (default : Nat) :
    Except SettingsError Nat :=
  match declared with
  | none => .ok default
  | some 0 => .error (.invalidLimit limit)
  | some length => .ok length

/-- The settings that result, or the first complaint. -/
def settings (declared : Declaration) : Except SettingsError Settings := do
  let default : Settings := {}
  let offset ← settledOffset declared.timeZoneOffset default.timeZoneOffset
  let query ← settledLength .maxQueryLength declared.maxQueryLength default.limits.maxQueryLength
  let term ← settledLength .maxTermLength declared.maxTermLength default.limits.maxTermLength
  return ⟨offset, query, term, declared.requireTerms.getD default.limits.requireTerms⟩

end Declaration

end ForumQuery
