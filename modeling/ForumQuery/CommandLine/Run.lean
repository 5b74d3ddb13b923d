import ForumQuery.CommandLine.Arguments
import ForumQuery.CommandLine.Failure
import ForumQuery.CommandLine.Listing
import ForumQuery.Json.Encode
import ForumQuery.Log
import ForumQuery.Settings.Source

/-!
# Running a command

A command reads the settings, checks its input against them and gives a result as text or JSON, or
fails. What it tells on the way goes to the error stream, as does the failure; the output is empty
unless the command succeeds.
-/

namespace ForumQuery.CommandLine

/-- What a command sees of its surroundings. -/
structure Host where
  environment : Environment := {}
  /-- The levels to be shown, in place of those that verbosity asks for. -/
  logLevel : Option Text := none
  /-- The instant of the run, in milliseconds from the beginning of 1970. -/
  now : Int := 0

/-- What a command did: the events in order, and the output or the failure. -/
structure Report where
  events : List Log.Event := []
  result : Except Failure Text

/-- What the caller gets. -/
structure Outcome where
  code : Nat
  output : Text
  errors : Text
  deriving DecidableEq

/-- The offset for a command, given or from the settings, if some time zone can have it. -/
def settledOffset (given : Option Int) (settings : Settings) : Except DateError Int :=
  Offset.check (given.getD settings.timeZoneOffset)

/-- The offset for a command, or the failure. -/
def requiredOffset (given : Option Int) (settings : Settings) : Except Failure Int :=
  (settledOffset given settings).mapError .offset

/-- A query must not be too long. -/
def checkLength (limits : Limits) (query : Text) : Except Failure Unit :=
  if query.length ≤ limits.maxQueryLength then .ok ()
  else .error (.queryTooLong query.length limits.maxQueryLength)

/-- The words among the terms of the records, in order. -/
def termWords (records : List SearchRecord) : List Text :=
  records.flatMap fun record =>
    Text.words record.terms.included ++ Text.words record.terms.excluded

/-- No word of a record may be too long. -/
def checkTerms (limits : Limits) (records : List SearchRecord) : Except Failure Unit :=
  match (termWords records).find? fun term => decide (limits.maxTermLength < term.length) with
  | some term => .error (.termTooLong term limits.maxTermLength)
  | none => .ok ()

/-- There must be a record if the settings ask for one. -/
def checkPresence (limits : Limits) (records : List SearchRecord) : Except Failure Unit :=
  if limits.requireTerms && records.isEmpty then .error .noSearch else .ok ()

/-- The JSON text of a document on lines of its own. -/
def document (json : Json) : Text :=
  json.text ++ ['\n']

/-- The events of reading a query. -/
def readingEvents (reading : Query.Reading) : List Log.Event :=
  reading.resolution.dropped.map Log.Event.flagDropped
    ++ [.queryRead reading.tokens.length reading.extraction.words.length
          reading.extraction.flags.length reading.records.length,
        .queryParsed reading.records.length]

/-- Parse a query into records. -/
def parse (settings : Settings) (json : Bool) (query : Text) (offset : Option Int) : Report :=
  let limits := settings.limits
  let admitted : Except Failure Int := do
    checkLength limits query
    requiredOffset offset settings
  match admitted with
  | .error failure => { result := .error failure }
  | .ok offset =>
      let reading := Query.read query offset
      { events := readingEvents reading
        result := do
          checkTerms limits reading.records
          checkPresence limits reading.records
          return if json then document (.array (reading.records.map SearchRecord.toJson))
            else SearchRecord.listing reading.records }

/-- Show the stages of reading a query. -/
def explain (json : Bool) (query : Text) : Report :=
  let reading := Query.read query 0
  { result := .ok (if json then document reading.toJson else reading.listing) }

/-- The warning about a date that is given and cannot be used. -/
def dateEvents (side : Log.Side) (date : Option Text) : List Log.Event :=
  match date with
  | none => []
  | some text =>
      match Date.read text with
      | .ok _ => []
      | .error error => [.unusableDate side text error]

/-- Turn dates into the bounds of a range. -/
def dates (settings : Settings) (json : Bool) (now : Int) (first last : Option Text)
    (offset : Option Int) : Report :=
  match requiredOffset offset settings with
  | .error failure => { result := .error failure }
  | .ok offset =>
      let range :=
        DateRange.ofFilters
          { fromDate := first, toDate := last, timeZoneOffset := offset } now
      { events := dateEvents .fromDate first ++ dateEvents .toDate last
        result := .ok (if json then document range.toJson else range.listing) }

/-- Where the settings came from. -/
def settingsEvent (environment : Environment) (requested : Option Text) : Log.Event :=
  match Settings.location environment requested with
  | .error error => .settingsNowhere error
  | .ok path =>
      if environment.files path = .missing then .settingsAbsent path else .settingsFound path

/-- What a command does with the settings. -/
def perform (settings : Settings) (now : Int) (invocation : Invocation) : Report :=
  match invocation.command with
  | .parse query offset => parse settings invocation.json query offset
  | .explain query => explain invocation.json query
  | .dates first last offset => dates settings invocation.json now first last offset

/-- What a command does. -/
def report (host : Host) (invocation : Invocation) : Report :=
  match Settings.load host.environment invocation.settingsPath with
  | .error error => { result := .error (.settings error) }
  | .ok settings =>
      let before :=
        if invocation.verbose then [settingsEvent host.environment invocation.settingsPath] else []
      let done := perform settings host.now invocation
      { done with events := before ++ done.events }

/-- The levels that are shown: those that the surroundings ask for, if they ask for a threshold, and
else those that verbosity asks for. -/
def threshold (host : Host) (verbose : Bool) : Log.Threshold :=
  match host.logLevel.bind Log.Threshold.read? with
  | some threshold => threshold
  | none => if verbose then some .debug else some .warn

/-- Run a command. -/
def invoke (host : Host) (invocation : Invocation) : Outcome :=
  let done := report host invocation
  let log := Log.text (threshold host invocation.verbose) done.events
  match done.result with
  | .ok output => ⟨0, output, log⟩
  | .error failure => ⟨failure.code, [], log ++ failure.line invocation.verbose⟩

/-- Do what the arguments ask for; `none` if they cannot be used. -/
def run (host : Host) (arguments : List Text) : Option Outcome :=
  (Request.read? arguments).map fun
    | .version => ⟨0, "sift 0.1.0\n".toList, []⟩
    | .invoke invocation => invoke host invocation

end ForumQuery.CommandLine
