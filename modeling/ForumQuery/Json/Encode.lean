import ForumQuery.DateRange
import ForumQuery.Json.Basic
import ForumQuery.Query

/-!
# JSON forms

The JSON forms of records and of the stages of reading a query. Fields come in a fixed order. A
number that is missing is null; a text that is missing is the empty text.
-/

namespace ForumQuery

namespace Json

/-- A number or null. -/
def ofCount (count : Option Int) : Json :=
  match count with
  | some n => .integer n
  | none => .null

/-- A text, empty if missing. -/
def ofText? (text : Option Text) : Json :=
  .string (text.getD [])

end Json

/-- The JSON form of a record. -/
def SearchRecord.toJson (record : SearchRecord) : Json :=
  let filters := record.filters
  .object
    [("terms".toList, .string record.terms.included),
      ("excludedTerms".toList, .string record.terms.excluded),
      ("termsType".toList, .ofText? (record.field.map Field.text)),
      ("postType".toList, .ofText? (filters.postType.map PostType.text)),
      ("user".toList, .ofText? (filters.user.map Id.text)),
      ("parent".toList, .ofText? (filters.parent.map Id.text)),
      ("ids".toList, .array (filters.ids.map fun id => .string id.text)),
      ("minVotes".toList, .ofCount filters.minVotes),
      ("maxVotes".toList, .ofCount filters.maxVotes),
      ("minAnswers".toList, .ofCount filters.minAnswers),
      ("maxAnswers".toList, .ofCount filters.maxAnswers),
      ("fromDate".toList, .ofText? filters.fromDate),
      ("toDate".toList, .ofText? filters.toDate),
      ("timeZoneOffset".toList, .integer filters.timeZoneOffset)]

/-- The JSON form of a flag. -/
def Flag.toJson (flag : Flag) : Json :=
  .object
    [("name".toList, .string flag.name.text), ("value".toList, .string flag.value),
      ("excluded".toList, .boolean flag.excluded)]

/-- The JSON form of a search word. -/
def Word.toJson (word : Word) : Json :=
  .object [("value".toList, .string word.value), ("excluded".toList, .boolean word.excluded)]

/-- The JSON form of the terms of the search words. -/
def Buckets.toJson (buckets : Buckets) : Json :=
  .object
    [("plain".toList, .string buckets.plain.included),
      ("excluded_plain".toList, .string buckets.plain.excluded),
      ("tags".toList, .string buckets.tags.included),
      ("excluded_tags".toList, .string buckets.tags.excluded)]

/-- The JSON form of the stages before the records. -/
def Query.Reading.toJson (reading : Query.Reading) : Json :=
  .object
    [("tokens".toList, .array (reading.tokens.map Json.string)),
      ("flags".toList, .array (reading.extraction.flags.map Flag.toJson)),
      ("words".toList, .array (reading.extraction.words.map Word.toJson)),
      ("buckets".toList, reading.buckets.toJson)]

/-- The JSON form of a range of instants. -/
def DateRange.toJson (range : DateRange) : Json :=
  .object [("start".toList, .integer range.start), ("end".toList, .integer range.stop)]

end ForumQuery
