import ForumQuery.Text.Numeral
import ForumQuery.Toml.Quoted

/-!
# Numbers of a TOML document

A whole number is written in decimal with or without a sign, or in base sixteen, eight or two after
`0x`, `0o` or `0b`. Other numbers have a fraction, an exponent or both. Underscores may stand between
digits.

The form of a whole number is wider than its values: no digit need follow `0x`, and after an
underscore a decimal number may run on into other characters. What has the form may stand in a
document; `WholeNumber.value?` says whether it denotes anything.
-/

namespace ForumQuery.Toml

/-- A plus or minus sign. -/
def isSign (c : Char) : Bool :=
  c == '+' || c == '-'

/-- The text without one sign in front. -/
def unsigned : Text → Text
  | c :: rest => if isSign c then rest else c :: rest
  | [] => []

/-- Every underscore stands between two digits. The flag says that a digit stands before the text. -/
def underscoresFitAfter (isDigit : Char → Bool) : Bool → Text → Bool
  | _, [] => true
  | before, '_' :: rest => before && rest.head?.any isDigit && underscoresFitAfter isDigit false rest
  | _, c :: rest => underscoresFitAfter isDigit (isDigit c) rest

/-- Every underscore of a number stands between two digits. -/
def underscoresFit (isDigit : Char → Bool) (number : Text) : Bool :=
  underscoresFitAfter isDigit false number

/-- A zero in front of another character. -/
def hasLeadingZero : Text → Bool
  | '0' :: _ :: _ => true
  | _ => false

/-- The value of a digit in a base. -/
def digitOfBase? (base : Nat) (c : Char) : Option Nat :=
  (hexDigit? c).filter (· < base)

/-- A whole number as it is written: a decimal one with its sign, or digits of another base. The
underscores are left out. -/
inductive WholeNumber where
  | decimal (written : Text)
  | based (base : Nat) (digits : Text)

namespace WholeNumber

/-- The form of a whole number in decimal: digits with no zero in front, and after an underscore
whatever has no space in it and nothing that makes a fraction or an exponent. -/
def isDecimal (run : Text) : Bool :=
  let magnitude := unsigned run
  !hasLeadingZero magnitude && underscoresFit (fun c => (hexDigit? c).isSome) run &&
    match magnitude.dropWhile Char.isDigit with
    | [] => !magnitude.isEmpty
    | '_' :: rest => rest.all fun c => c != ' ' && c != '.' && c != 'e' && c != 'E'
    | _ => false

/-- The number that digits of a base form, if they are none but such digits and underscores. -/
def ofDigits? (base : Nat) (text : Text) : Option WholeNumber :=
  let isDigit := fun c => (digitOfBase? base c).isSome
  if text.all (fun c => c == '_' || isDigit c) && underscoresFit isDigit text then
    some (.based base (text.filter (· != '_')))
  else
    none

/-- The whole number that a run has the form of. -/
def ofRun? : Text → Option WholeNumber
  | '0' :: 'x' :: text => ofDigits? 16 text
  | '0' :: 'o' :: text => ofDigits? 8 text
  | '0' :: 'b' :: text => ofDigits? 2 text
  | run => if isDecimal run then some (.decimal (run.filter (· != '_'))) else none

/-- The value of a whole number, if it has digits and nothing else but a sign. -/
def value? : WholeNumber → Option Int
  | decimal written => Text.readInt? written
  | based _ [] => none
  | based base digits =>
      (digits.foldlM (fun n c => (digitOfBase? base c).map (base * n + ·)) 0).map Int.ofNat

end WholeNumber

/-- The characters of a group of decimal digits. -/
def isGroupChar (c : Char) : Bool :=
  c.isDigit || c == '_'

/-- The text after a group at its front that holds a digit. -/
def afterGroup? (text : Text) : Option Text :=
  if (text.takeWhile isGroupChar).any Char.isDigit then some (text.dropWhile isGroupChar) else none

/-- The exponent of a number: digits after a letter E and a sign that may be missing. -/
def isExponent : Text → Bool
  | c :: rest => (c == 'e' || c == 'E') && afterGroup? (unsigned rest) == some []
  | [] => false

/-- A number without sign that has a fraction, an exponent or both. -/
def isFractional (magnitude : Text) : Bool :=
  !hasLeadingZero (magnitude.takeWhile isGroupChar) &&
    match afterGroup? magnitude with
    | some ('.' :: rest) =>
        match afterGroup? rest with
        | some [] => true
        | some rest => isExponent rest
        | none => false
    | some rest => isExponent rest
    | none => false

/-- A number with a fraction, an exponent or both; infinity; or no number. -/
def isFloat (run : Text) : Bool :=
  let magnitude := unsigned run
  decide (magnitude = "inf".toList) || decide (magnitude = "nan".toList)
    || (isFractional magnitude && underscoresFit Char.isDigit run)

end ForumQuery.Toml
