import ForumQuery.Calendar.Date
import ForumQuery.Text.Blank
import ForumQuery.Text.Numeral

/-!
# Reading dates

A date is written as year, month and day with dashes between and blanks around it. A year has at
most four digits, or a sign and any number of digits; month and day have one or two digits, before
which blanks may stand. All digits are ASCII.
-/

namespace ForumQuery

/-- Why a date or a time zone cannot be used. -/
inductive DateError where
  | empty
  | invalidDate
  | invalidOffset (seconds : Int)
  deriving DecidableEq

/-- The wording of the complaint. -/
def DateError.message : DateError → Text
  | .empty => "date cannot be empty".toList
  | .invalidDate => "invalid date: expected YYYY-M-D".toList
  | .invalidOffset seconds => "invalid time zone offset: ".toList ++ Text.decimal seconds

namespace Date

/-- The number that the first digits of a text give, at most `limit` of them, and what follows. -/
def leadingNumber (limit : Nat) (text : Text) : Option (Nat × Text) :=
  match (text.take limit).takeWhile Char.isDigit with
  | [] => none
  | number => some (Nat.ofDigitChars 10 number 0, text.drop number.length)

/-- The year at the front of a text, and what follows. -/
def leadingYear : Text → Option (Int × Text)
  | '-' :: rest => (leadingNumber rest.length rest).map fun (n, after) => (-(n : Int), after)
  | '+' :: rest => (leadingNumber rest.length rest).map fun (n, after) => ((n : Int), after)
  | text => (leadingNumber 4 text).map fun (n, after) => ((n : Int), after)

/-- The number after a dash and blanks, and what follows. -/
def dashedNumber : Text → Option (Nat × Text)
  | '-' :: rest => leadingNumber 2 (rest.dropWhile Text.isBlank)
  | _ => none

/-- The date that a text without blanks around it writes. -/
def parse? (text : Text) : Option Date := do
  let (year, afterYear) ← leadingYear text
  let (month, afterMonth) ← dashedNumber afterYear
  let (day, afterDay) ← dashedNumber afterMonth
  let date : Date := ⟨year, month, day⟩
  if afterDay.isEmpty && date.isValid then some date else none

/-- Read a date. -/
def read (text : Text) : Except DateError Date :=
  match text.trim with
  | [] => .error .empty
  | trimmed =>
      match parse? trimmed with
      | some date => .ok date
      | none => .error .invalidDate

end Date

end ForumQuery
