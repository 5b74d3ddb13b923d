import ForumQuery.Calendar.Date
import ForumQuery.Text.Basic

/-!
# Dates and times of a TOML document

A date is written with dashes and a time of day with colons. Both together may have a difference from
UTC at the end.
-/

namespace ForumQuery.Toml

/-- The number that exactly `count` digits at the front of a text denote, and what follows. -/
def fixedNumber? (count : Nat) (text : Text) : Option (Nat × Text) :=
  let digits := text.take count
  if digits.length = count ∧ digits.all Char.isDigit = true then
    some (Nat.ofDigitChars 10 digits 0, text.drop count)
  else
    none

/-- The text after a day of the calendar at its front. -/
def afterDate? (text : Text) : Option Text := do
  let (year, text) ← fixedNumber? 4 text
  let ('-' :: text) := text | none
  let (month, text) ← fixedNumber? 2 text
  let ('-' :: text) := text | none
  let (day, text) ← fixedNumber? 2 text
  let date : Date := ⟨year, month, day⟩
  if date.isValid then some text else none

/-- The text after a fraction of a second at its front, if there is one. -/
def afterFraction? : Text → Option Text
  | '.' :: rest =>
      if (rest.takeWhile Char.isDigit).isEmpty then none else some (rest.dropWhile Char.isDigit)
  | text => some text

/-- The text after a time of day at its front. Seconds may be missing; the last one of a minute may
be a leap second. -/
def afterTime? (text : Text) : Option Text := do
  let (hour, text) ← fixedNumber? 2 text
  let (':' :: text) := text | none
  let (minute, text) ← fixedNumber? 2 text
  if 24 ≤ hour ∨ 60 ≤ minute then none
  else
    match text with
    | ':' :: text =>
        let (second, text) ← fixedNumber? 2 text
        if 60 < second then none else afterFraction? text
    | text => some text

/-- A difference from UTC at the end of a time. -/
def isZone : Text → Bool
  | [c] => c == 'Z' || c == 'z'
  | sign :: rest =>
      match fixedNumber? 2 rest with
      | some (hour, ':' :: rest) =>
          match fixedNumber? 2 rest with
          | some (minute, []) =>
              (sign == '+' || sign == '-') && decide (hour < 24) && decide (minute < 60)
          | _ => false
      | _ => false
  | [] => false

/-- A date, a time of day, or both with a letter T or a space between and maybe a zone at the end. -/
def isDateTime (text : Text) : Bool :=
  match afterDate? text with
  | some [] => true
  | some (c :: rest) =>
      match afterTime? rest with
      | some after => (c == 'T' || c == 't' || c == ' ') && (after.isEmpty || isZone after)
      | none => false
  | none => afterTime? text == some []

end ForumQuery.Toml
