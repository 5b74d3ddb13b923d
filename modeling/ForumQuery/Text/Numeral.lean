import ForumQuery.Text.Basic

/-!
# Decimal numerals

Whole numbers are written in ASCII decimal digits without leading zeros and with a minus sign if
negative. Reading is more generous: leading zeros and a plus sign are allowed.

The main statements are `readNat?_digits` and `readInt?_decimal`: what is written reads back.
-/

namespace ForumQuery.Text

/-- The decimal digits of a number. -/
def digits (n : Nat) : Text :=
  Nat.toDigits 10 n

/-- A whole number in decimal. -/
def decimal (n : Int) : Text :=
  if n < 0 then '-' :: digits n.natAbs else digits n.natAbs

/-- The number that a text of one or more ASCII digits and nothing else denotes. -/
def readNat? (text : Text) : Option Nat :=
  if text ≠ [] ∧ text.all Char.isDigit = true then some (Nat.ofDigitChars 10 text 0) else none

/-- The whole number that ASCII digits after at most one sign denote. -/
def readInt? : Text → Option Int
  | '-' :: rest => (readNat? rest).map fun (n : Nat) => -(n : Int)
  | '+' :: rest => (readNat? rest).map fun (n : Nat) => (n : Int)
  | text => (readNat? text).map fun (n : Nat) => (n : Int)

/-- The whole numbers from `low` to `high`. -/
structure Interval where
  low : Int
  high : Int

namespace Interval

/-- Both ends belong to the interval. -/
def holds (range : Interval) (n : Int) : Bool :=
  decide (range.low ≤ n) && decide (n ≤ range.high)

/-- The values of a signed word of 32 bits. -/
def signed32 : Interval :=
  ⟨-2147483648, 2147483647⟩

/-- The values of a signed word of 64 bits. -/
def signed64 : Interval :=
  ⟨-9223372036854775808, 9223372036854775807⟩

/-- The values of an unsigned word of 64 bits. -/
def unsigned64 : Interval :=
  ⟨0, 18446744073709551615⟩

/-- The number that the text denotes, if it lies in the interval. -/
def read? (range : Interval) (text : Text) : Option Int :=
  (readInt? text).filter range.holds

end Interval

theorem digits_ne_nil (n : Nat) : digits n ≠ [] :=
  Nat.toDigits_ne_nil

theorem isDigit_of_mem_digits {n : Nat} {c : Char} (h : c ∈ digits n) : c.isDigit = true :=
  Nat.isDigit_of_mem_toDigits (by decide) (by decide) h

/-- A written number reads back. -/
theorem readNat?_digits (n : Nat) : readNat? (digits n) = some n := by
  have hall : (digits n).all Char.isDigit = true :=
    List.all_eq_true.2 fun _ hc => isDigit_of_mem_digits hc
  rw [readNat?, if_pos ⟨digits_ne_nil n, hall⟩, digits, Nat.ofDigitChars_ten_toDigits]

/-- Digits carry no sign, so they read as a whole number as they read as a number. -/
theorem readInt?_digits (n : Nat) : readInt? (digits n) = some (n : Int) := by
  have hread := readNat?_digits n
  have hdigit : ∀ c ∈ digits n, c.isDigit = true := fun _ hc => isDigit_of_mem_digits hc
  unfold readInt?
  split
  · next h => simp [h] at hdigit
  · next h => simp [h] at hdigit
  · simp [hread]

/-- A written whole number reads back. -/
theorem readInt?_decimal (n : Int) : readInt? (decimal n) = some n := by
  unfold decimal
  split
  · next h =>
      have habs : -(n.natAbs : Int) = n := by omega
      rw [readInt?, readNat?_digits, Option.map_some, habs]
  · next h =>
      have habs : (n.natAbs : Int) = n := by omega
      rw [readInt?_digits, habs]

end ForumQuery.Text
