import ForumQuery.Resolution
import ForumQuery.Settings.Basic
import ForumQuery.Calendar.DateText
import ForumQuery.Text.Literal

/-!
# Log

What happens on the way to a result is told as events of graded weight, one line each: the level,
the message, and fields with their values as they are.
-/

namespace ForumQuery.Log

/-- The weight of an event. -/
inductive Level where
  | error
  | warn
  | info
  | debug
  | trace
  deriving DecidableEq

namespace Level

/-- From the heaviest to the lightest. -/
def rank : Level → Nat
  | .error => 1
  | .warn => 2
  | .info => 3
  | .debug => 4
  | .trace => 5

/-- The level at the front of a line, five columns wide. -/
def label : Level → Text
  | .error => "ERROR".toList
  | .warn => " WARN".toList
  | .info => " INFO".toList
  | .debug => "DEBUG".toList
  | .trace => "TRACE".toList

end Level

/-- The lightest level that is shown; `none` shows nothing. -/
abbrev Threshold := Option Level

/-- An event of the level is shown. -/
def Threshold.shows (threshold : Threshold) (level : Level) : Bool :=
  match threshold with
  | none => false
  | some lightest => decide (level.rank ≤ lightest.rank)

/-- The thresholds with their names, from the strictest on. -/
def Threshold.names : List (Text × Threshold) :=
  [("off".toList, none), ("error".toList, some .error), ("warn".toList, some .warn),
    ("info".toList, some .info), ("debug".toList, some .debug), ("trace".toList, some .trace)]

/-- The rank of the lightest level that is shown, or zero. -/
def Threshold.rank (threshold : Threshold) : Nat :=
  (threshold.map Level.rank).getD 0

/-- The threshold that a text asks for by its name, in any ASCII case, or by its rank, one digit.
The empty text asks for errors only.

Two kinds of filters are not modelled: those that tell events apart by where they come from, and
lists. A text of either kind asks for no threshold here, just like one that is no filter at all. -/
def Threshold.read? (text : Text) : Option Threshold :=
  if text.isEmpty then some (some .error)
  else
    Threshold.names.find? (fun entry =>
        text.sameIgnoringCase entry.1 || text == Text.digits entry.2.rank)
      |>.map Prod.snd

example : Threshold.names.all (fun entry =>
    Threshold.read? entry.1 = some entry.2 ∧
      Threshold.read? (Text.digits entry.2.rank) = some entry.2) = true := by
  decide

/-- The two sides of a range of dates. -/
inductive Side where
  | fromDate
  | toDate
  deriving DecidableEq

/-- The side in lower case. -/
def Side.text : Side → Text
  | .fromDate => "from".toList
  | .toDate => "to".toList

/-- What is told. -/
inductive Event where
  | settingsFound (path : Text)
  | settingsAbsent (path : Text)
  | settingsNowhere (error : SettingsError)
  | flagDropped (dropped : DroppedFlag)
  | queryRead (tokens words flags records : Nat)
  | queryParsed (records : Nat)
  | unusableDate (side : Side) (date : Text) (error : DateError)
  deriving DecidableEq

namespace Event

/-- The weight of an event. -/
def level : Event → Level
  | .unusableDate .. => .warn
  | .queryRead .. => .trace
  | _ => .debug

/-- A field of a line. -/
def field (name : String) (value : Text) : Text :=
  ' ' :: name.toList ++ '=' :: value

/-- The message and the fields of an event. -/
def body : Event → Text
  | .settingsFound path => "config resolved".toList ++ field "path" path
  | .settingsAbsent path => "config missing, using defaults".toList ++ field "path" path
  | .settingsNowhere error => "config unavailable".toList ++ field "error" error.message
  | .flagDropped ⟨flag, rejection⟩ =>
      "search flag dropped".toList ++ field "flag" flag.name.text ++ field "value" flag.value
        ++ field "reason" (Text.literal rejection.reason)
  | .queryRead tokens words flags records =>
      "parsed search query".toList ++ field "tokens" (Text.digits tokens)
        ++ field "words" (Text.digits words) ++ field "flags" (Text.digits flags)
        ++ field "records" (Text.digits records)
  | .queryParsed records => "query parsed".toList ++ field "records" (Text.digits records)
  | .unusableDate side date error =>
      "unparsable ".toList ++ side.text ++ " date, using fallback".toList ++ field "date" date
        ++ field "error" error.message

/-- The line of an event in plain text. The colours that a terminal may get are not modelled. -/
def line (event : Event) : Text :=
  event.level.label ++ ' ' :: event.body ++ ['\n']

end Event

/-- The lines of the events that are shown. -/
def text (threshold : Threshold) (events : List Event) : Text :=
  (events.filter fun event => threshold.shows event.level).flatMap Event.line

end ForumQuery.Log
