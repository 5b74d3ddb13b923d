import ForumQuery.Calendar.DateText
import ForumQuery.Settings.Basic
import ForumQuery.Text.Literal

/-!
# Failures

Why a command gives no result, with the wording and the exit code of each.
-/

namespace ForumQuery.CommandLine

/-- Why a command gives no result. -/
inductive Failure where
  | settings (error : SettingsError)
  | offset (error : DateError)
  | queryTooLong (length limit : Nat)
  | termTooLong (term : Text) (limit : Nat)
  | noSearch
  deriving DecidableEq

namespace Failure

/-- The exit code: 1 if the machine stands in the way, 2 for no results, 3 for input or settings that
cannot be used. -/
def code : Failure → Nat
  | .settings .missingHome => 1
  | .settings (.unreadable ..) => 1
  | .noSearch => 2
  | _ => 3

/-- The wording, from the outside in. -/
def chain : Failure → List Text
  | .settings error => "load config".toList :: error.chain
  | .offset error => [error.message]
  | .queryTooLong length limit =>
      ["invalid input: query is ".toList ++ Text.digits length
        ++ " characters long; the limit is ".toList ++ Text.digits limit]
  | .termTooLong term limit =>
      ["invalid input: search term ".toList ++ Text.literal term ++ " exceeds ".toList
        ++ Text.digits limit ++ " characters".toList]
  | .noSearch => ["no results: query has no search terms or filters".toList]

/-- The line that reports the failure: its outermost wording, or all of it if verbose. -/
def line (failure : Failure) (verbose : Bool) : Text :=
  let shown := if verbose then failure.chain else failure.chain.take 1
  "error: ".toList ++ List.intercalate [':', ' '] shown ++ ['\n']

end Failure

end ForumQuery.CommandLine
