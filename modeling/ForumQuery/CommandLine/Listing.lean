import ForumQuery.Calendar.Timestamp
import ForumQuery.DateRange
import ForumQuery.Query
import ForumQuery.Text.Literal

/-!
# Listings

The forms of results for the eye: a header line for each record with a line for each of its filters
below, a line or block for each stage of reading a query, and the bounds of a range of dates.
-/

namespace ForumQuery

/-- The lines, each with its end. -/
def Text.unlines (lines : List Text) : Text :=
  lines.flatMap fun line => line ++ ['\n']

namespace SearchRecord

/-- A bound, or an asterisk for an open side. -/
def bound (count : Option Int) : Text :=
  match count with
  | some n => Text.decimal n
  | none => ['*']

/-- Two bounds of a count, if there is one at all. -/
def bounds (low high : Option Int) : Option Text :=
  if low.isNone && high.isNone then none
  else some (bound low ++ " .. ".toList ++ bound high)

/-- The header line of a record. -/
def header (record : SearchRecord) : Text :=
  match record.field with
  | some field =>
      '[' :: field.text ++ "] terms: ".toList ++ Text.literal record.terms.included
        ++ " excluded: ".toList ++ Text.literal record.terms.excluded
  | none => "[filters only]".toList

/-- The line for the dates of a record, if it has any. -/
def dates (filters : Filters) : Option Text :=
  if filters.fromDate.isNone && filters.toDate.isNone then none
  else
    some (filters.fromDate.getD ['*'] ++ " .. ".toList ++ filters.toDate.getD ['*']
      ++ " (offset ".toList ++ Text.decimal filters.timeZoneOffset ++ "s)".toList)

/-- The line for one filter, if the filter is set. -/
def item (name : String) (value : Option Text) : List Text :=
  (value.map fun value => ' ' :: ' ' :: name.toList ++ ": ".toList ++ value).toList

/-- The identifiers with commas between, if there are any. -/
def idList (ids : List PostId) : Option Text :=
  if ids.isEmpty then none else some (List.intercalate [',', ' '] (ids.map Id.text))

/-- The lines of a record. -/
def describe (record : SearchRecord) : List Text :=
  let filters := record.filters
  [record.header]
    ++ item "post type" (filters.postType.map PostType.text)
    ++ item "user" (filters.user.map Id.text)
    ++ item "in question" (filters.parent.map Id.text)
    ++ item "ids" (idList filters.ids)
    ++ item "votes" (bounds filters.minVotes filters.maxVotes)
    ++ item "answers" (bounds filters.minAnswers filters.maxAnswers)
    ++ item "dates" (dates filters)

/-- The listing of the records of a query. -/
def listing (records : List SearchRecord) : Text :=
  if records.isEmpty then "no search records\n".toList
  else Text.unlines (records.flatMap describe)

end SearchRecord

namespace Query.Reading

/-- A dash for what is excluded. -/
def sign (excluded : Bool) : Text :=
  if excluded then ['-'] else []

/-- A heading with its entries below, or the word for none. -/
def block (name : String) (entries : List Text) : List Text :=
  if entries.isEmpty then [name.toList ++ ": none".toList]
  else (name.toList ++ [':']) :: entries.map fun entry => ' ' :: ' ' :: entry

/-- The literals with commas between, in brackets. -/
def literalList (texts : List Text) : Text :=
  '[' :: List.intercalate [',', ' '] (texts.map Text.literal) ++ [']']

/-- A text under its name. -/
def entry (name : String) (text : Text) : Text :=
  name.toList ++ ": ".toList ++ text

/-- The listing of the stages before the records. -/
def listing (reading : Query.Reading) : Text :=
  Text.unlines
    ([entry "tokens" (literalList reading.tokens)]
      ++ block "flags" (reading.extraction.flags.map fun flag =>
          sign flag.excluded ++ flag.name.text ++ ": ".toList ++ Text.literal flag.value)
      ++ block "words" (reading.extraction.words.map fun word =>
          sign word.excluded ++ Text.literal word.value)
      ++ [entry "plain" (Text.literal reading.buckets.plain.included),
        entry "excluded plain" (Text.literal reading.buckets.plain.excluded),
        entry "tags" (Text.literal reading.buckets.tags.included),
        entry "excluded tags" (Text.literal reading.buckets.tags.excluded)])

end Query.Reading

namespace DateRange

/-- An instant as a number, and as a timestamp in brackets. -/
def instant (millis : Int) : Text :=
  Text.decimal millis ++ " (".toList ++ Timestamp.text millis ++ [')']

/-- The listing of a range. -/
def listing (range : DateRange) : Text :=
  Text.unlines
    ["start: ".toList ++ instant range.start, "end: ".toList ++ instant range.stop]

end DateRange

end ForumQuery
