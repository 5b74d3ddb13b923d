import ForumQuery.Text.Numeral

/-!
# Settings

The settings are the time zone of dates that come without one, and limits on queries.
-/

namespace ForumQuery

/-- What a query must keep to. Lengths are counted in characters. -/
structure Limits where
  maxQueryLength : Nat := 1000
  maxTermLength : Nat := 64
  requireTerms : Bool := false
  deriving DecidableEq

/-- The settings of the program. The time zone is given in seconds east of UTC. -/
structure Settings where
  timeZoneOffset : Int := 0
  limits : Limits := {}
  deriving DecidableEq

/-- The limits that must not be zero. -/
inductive LimitName where
  | maxQueryLength
  | maxTermLength
  deriving DecidableEq

/-- The key of a limit in a settings file. -/
def LimitName.key : LimitName → Text
  | .maxQueryLength => "max_query_length".toList
  | .maxTermLength => "max_term_length".toList

/-- Why a file cannot be read as text. -/
inductive ReadFailure where
  | isDirectory
  | notText
  | refused (reason : Text)
  deriving DecidableEq

/-- The wording of the failure. -/
def ReadFailure.message : ReadFailure → Text
  | .isDirectory => "Is a directory (os error 21)".toList
  | .notText => "stream did not contain valid UTF-8".toList
  | .refused reason => reason

/-- Why there are no settings. Of a file that is no settings document it is not said what is wrong
with it, or where. -/
inductive SettingsError where
  | missingHome
  | invalidPath (path : Text)
  | missingFile (path : Text)
  | invalidOffset (seconds : Int)
  | invalidLimit (limit : LimitName)
  | unreadable (path : Text) (failure : ReadFailure)
  | malformed (path : Text)
  deriving DecidableEq

namespace SettingsError

/-- The wording of the complaint. -/
def message : SettingsError → Text
  | .missingHome => "missing home directory".toList
  | .invalidPath path => "invalid config path: ".toList ++ path
  | .missingFile path => "config file not found: ".toList ++ path
  | .invalidOffset seconds => "invalid time_zone_offset value: ".toList ++ Text.decimal seconds
  | .invalidLimit limit =>
      "invalid limits.".toList ++ limit.key ++ " value: must be greater than zero".toList
  | .unreadable path failure =>
      "failed to read config file ".toList ++ path ++ ": ".toList ++ failure.message
  | .malformed path =>
      "failed to parse config file ".toList ++ path ++ ": not a settings document".toList

/-- The wording of the complaint and of what lies behind it, from the outside in. -/
def chain (error : SettingsError) : List Text :=
  match error with
  | .unreadable _ failure => [error.message, failure.message]
  | .malformed _ => [error.message, "not a settings document".toList]
  | _ => [error.message]

end SettingsError

end ForumQuery
