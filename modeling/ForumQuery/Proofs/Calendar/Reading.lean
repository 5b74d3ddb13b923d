import ForumQuery.Calendar.DateText
import ForumQuery.Proofs.Text.Classes
import ForumQuery.Proofs.Text.Numerals
import Mathlib.Data.List.TakeWhile

/-!
# The texts that write a date

`Date.Writes` says which texts write a date, without reading them: a year, and month and day each
after a dash. `parse_iff` says that just these texts are parsed, and as the date that they write, if
the day exists in the calendar in use. `read_of_writes` says that they are read so as well.
-/

namespace ForumQuery

namespace Text

/-- The value of a text of digits. -/
abbrev digitsValue (digits : Text) : Nat :=
  Nat.ofDigitChars 10 digits 0

/-- An ASCII digit is no blank. -/
theorem not_blank_of_digit {c : Char} (h : c.isDigit = true) : isBlank c = false :=
  (plain_of_alphanum (by simp [Char.isAlphanum, h])).1

/-- A text that neither begins nor ends with a blank has none to lose. -/
theorem trim_of_ends {text : Text} (hfirst : ∀ c ∈ text.head?, isBlank c = false)
    (hlast : ∀ c ∈ text.getLast?, isBlank c = false) : trim text = text := by
  have hfront : text.dropWhile isBlank = text := by
    cases text with
    | nil => rfl
    | cons c rest => exact List.dropWhile_cons_of_neg (by simp [hfirst c rfl])
  have hback : text.reverse.dropWhile isBlank = text.reverse := by
    cases hreverse : text.reverse with
    | nil => rfl
    | cons c rest =>
        have hc : c ∈ text.getLast? := by
          rw [← List.head?_reverse, hreverse]
          rfl
        exact List.dropWhile_cons_of_neg (by simp [hlast c hc])
  rw [trim, hfront, dropEndWhile, hback, List.reverse_reverse]

end Text

namespace Date

/-- `WritesYear text year` says that the text writes the year: one to four digits, or any number of
digits after a sign. -/
inductive WritesYear : Text → Int → Prop where
  | bare (digits) :
      Text.IsDigits digits → digits.length ≤ 4 → WritesYear digits (Text.digitsValue digits)
  | plus (digits) :
      Text.IsDigits digits → WritesYear ('+' :: digits) (Text.digitsValue digits)
  | minus (digits) :
      Text.IsDigits digits → WritesYear ('-' :: digits) (-(Text.digitsValue digits))

/-- `WritesPart text n` says that the text writes the number of a month or day: one or two digits
after a dash and blanks. -/
inductive WritesPart : Text → Nat → Prop where
  | intro (blanks digits) :
      (∀ c ∈ blanks, Text.isBlank c = true) → Text.IsDigits digits → digits.length ≤ 2 →
      WritesPart ('-' :: (blanks ++ digits)) (Text.digitsValue digits)

/-- `Writes text date` says that the text writes the date: its year, month and day. -/
inductive Writes : Text → Date → Prop where
  | intro (year month day date) :
      WritesYear year date.year → WritesPart month date.month → WritesPart day date.day →
      Writes (year ++ (month ++ day)) date

/-- Digits at the front of a text are read up to what follows, if they are not too many. -/
theorem leading_number_append {limit : Nat} {digits rest : Text} (hdigits : Text.IsDigits digits)
    (hlength : digits.length ≤ limit) (hrest : ∀ c ∈ rest.head?, c.isDigit = false) :
    leadingNumber limit (digits ++ rest) = some (Text.digitsValue digits, rest) := by
  have hafter : (rest.take (limit - digits.length)).takeWhile Char.isDigit = [] := by
    cases rest with
    | nil => simp
    | cons c rest =>
        have hc : c.isDigit = false := hrest c rfl
        cases limit - digits.length <;> simp [hc]
  have hrun : ((digits ++ rest).take limit).takeWhile Char.isDigit = digits := by
    rw [List.take_append, List.take_of_length_le hlength,
      List.takeWhile_append_of_pos hdigits.2, hafter, List.append_nil]
  rw [leadingNumber, hrun]
  split
  · exact absurd rfl hdigits.1
  · rw [List.drop_left]

/-- A year is read up to what follows. -/
theorem WritesYear.leading_year {text rest : Text} {year : Int} (h : WritesYear text year)
    (hrest : ∀ c ∈ rest.head?, c.isDigit = false) :
    leadingYear (text ++ rest) = some (year, rest) := by
  cases h with
  | bare _ hdigits hlength =>
      have hread := leading_number_append hdigits hlength hrest
      obtain ⟨first, later, rfl⟩ := List.exists_cons_of_ne_nil hdigits.1
      have hfirst : first.isDigit = true := hdigits.2 first List.mem_cons_self
      rw [List.cons_append] at hread ⊢
      unfold leadingYear
      -- Digits do not begin with a sign.
      split
      · next heq => exact absurd ((List.cons.inj heq).1 ▸ hfirst) (by decide)
      · next heq => exact absurd ((List.cons.inj heq).1 ▸ hfirst) (by decide)
      · rw [hread, Option.map_some]
  | plus digits hdigits =>
      have hread := leading_number_append hdigits
        (show digits.length ≤ (digits ++ rest).length by simp) hrest
      rw [List.cons_append, leadingYear, hread, Option.map_some]
  | minus digits hdigits =>
      have hread := leading_number_append hdigits
        (show digits.length ≤ (digits ++ rest).length by simp) hrest
      rw [List.cons_append, leadingYear, hread, Option.map_some]

/-- The number of a month or day is read up to what follows. -/
theorem WritesPart.dashed_number {text rest : Text} {n : Nat} (h : WritesPart text n)
    (hrest : ∀ c ∈ rest.head?, c.isDigit = false) :
    dashedNumber (text ++ rest) = some (n, rest) := by
  cases h with
  | intro blanks digits hblanks hdigits hlength =>
      have hdrop : (blanks ++ (digits ++ rest)).dropWhile Text.isBlank = digits ++ rest := by
        obtain ⟨first, later, rfl⟩ := List.exists_cons_of_ne_nil hdigits.1
        have hfirst := Text.not_blank_of_digit (hdigits.2 first List.mem_cons_self)
        rw [List.dropWhile_append_of_pos hblanks, List.cons_append,
          List.dropWhile_cons_of_neg (by simp [hfirst])]
      rw [List.cons_append, List.append_assoc, dashedNumber, hdrop,
        leading_number_append hdigits hlength hrest]

theorem WritesPart.head {text : Text} {n : Nat} (h : WritesPart text n) (rest : Text) :
    ∀ c ∈ (text ++ rest).head?, c.isDigit = false := by
  cases h with
  | intro blanks digits =>
      simp

/-- A text that writes a date in use is parsed as it. -/
theorem Writes.parse {text : Text} {date : Date} (h : Writes text date)
    (hvalid : date.isValid = true) : parse? text = some date := by
  cases h with
  | intro year month day date hyear hmonth hday =>
      have hyear := hyear.leading_year (hmonth.head day)
      have hmonth := hmonth.dashed_number (by simpa using hday.head [])
      have hday : dashedNumber (day ++ []) = some (date.day, []) :=
        hday.dashed_number (by simp)
      rw [List.append_nil] at hday
      simp [parse?, hyear, hmonth, hday, hvalid]

/-! ## What is read is written -/

section

variable {text rest : Text}

/-- A number that is read is that of some digits at the front, which are not too many. -/
theorem leading_number_sound {limit n : Nat} (h : leadingNumber limit text = some (n, rest)) :
    ∃ digits, Text.IsDigits digits ∧ digits.length ≤ limit ∧ Text.digitsValue digits = n ∧
      text = digits ++ rest := by
  have hrun : (text.take limit).takeWhile Char.isDigit <+: text.take limit :=
    List.takeWhile_prefix _
  have hlength := Nat.le_trans hrun.length_le (List.length_take_le limit text)
  have hall : ∀ c ∈ (text.take limit).takeWhile Char.isDigit, c.isDigit = true :=
    fun _ => List.mem_takeWhile_imp
  unfold leadingNumber at h
  split at h
  · cases h
  · next hne =>
      obtain ⟨rfl, rfl⟩ := Prod.mk.inj (Option.some.inj h)
      have hfront := hrun.trans (List.take_prefix limit text)
      exact ⟨_, ⟨hne, hall⟩, hlength, rfl, (List.prefix_iff_eq_append.1 hfront).symm⟩

/-- The same of a year that is a number at the front, or stands for one. -/
theorem leading_year_of_number (meaning : Nat → Int) {limit : Nat} {year : Int}
    (h : ((leadingNumber limit text).map fun read => (meaning read.1, read.2)) =
      some (year, rest)) :
    ∃ digits, Text.IsDigits digits ∧ digits.length ≤ limit ∧
      meaning (Text.digitsValue digits) = year ∧ text = digits ++ rest := by
  obtain ⟨⟨n, after⟩, hread, heq⟩ := Option.map_eq_some_iff.1 h
  obtain ⟨rfl, rfl⟩ := Prod.mk.inj heq
  obtain ⟨digits, hdigits, hlength, rfl, htext⟩ := leading_number_sound hread
  exact ⟨digits, hdigits, hlength, rfl, htext⟩

/-- A year that is read is written at the front. -/
theorem leading_year_sound {year : Int} (h : leadingYear text = some (year, rest)) :
    ∃ written, WritesYear written year ∧ text = written ++ rest := by
  unfold leadingYear at h
  split at h
  · obtain ⟨digits, hdigits, _, rfl, rfl⟩ := leading_year_of_number (fun n => -(n : Int)) h
    exact ⟨_, .minus digits hdigits, rfl⟩
  · obtain ⟨digits, hdigits, _, rfl, rfl⟩ := leading_year_of_number Int.ofNat h
    exact ⟨_, .plus digits hdigits, rfl⟩
  · obtain ⟨digits, hdigits, hlength, rfl, rfl⟩ := leading_year_of_number Int.ofNat h
    exact ⟨_, .bare digits hdigits hlength, rfl⟩

/-- A number that is read after a dash is written there. -/
theorem dashed_number_sound {n : Nat} (h : dashedNumber text = some (n, rest)) :
    ∃ written, WritesPart written n ∧ text = written ++ rest := by
  unfold dashedNumber at h
  split at h
  · next after =>
      obtain ⟨digits, hdigits, hlength, rfl, hafter⟩ := leading_number_sound h
      have hblanks : ∀ c ∈ after.takeWhile Text.isBlank, Text.isBlank c = true :=
        fun _ => List.mem_takeWhile_imp
      refine ⟨_, .intro _ digits hblanks hdigits hlength, ?_⟩
      rw [List.cons_append, List.append_assoc, ← hafter, List.takeWhile_append_dropWhile]
  · cases h

/-- A text is parsed as the dates that it writes, if they are in use. -/
theorem parse_iff {date : Date} :
    parse? text = some date ↔ Writes text date ∧ date.isValid = true := by
  refine ⟨fun h => ?_, fun ⟨hwrites, hvalid⟩ => hwrites.parse hvalid⟩
  simp only [parse?, Option.bind_eq_bind, Option.bind_eq_some_iff] at h
  obtain ⟨⟨year, afterYear⟩, hreadYear, h⟩ := h
  obtain ⟨⟨month, afterMonth⟩, hreadMonth, ⟨day, afterDay⟩, hreadDay, h⟩ := h
  split at h
  · next hend =>
      obtain rfl := Option.some.inj h
      obtain ⟨hempty, hvalid⟩ := Bool.and_eq_true_iff.1 hend
      obtain ⟨writtenYear, hyear, rfl⟩ := leading_year_sound hreadYear
      obtain ⟨writtenMonth, hmonth, rfl⟩ := dashed_number_sound hreadMonth
      obtain ⟨writtenDay, hday, rfl⟩ := dashed_number_sound hreadDay
      obtain rfl : afterDay = [] := List.isEmpty_iff.1 hempty
      rw [List.append_nil]
      exact ⟨.intro _ _ _ _ hyear hmonth hday, hvalid⟩
  · cases h

/-- A text is read by parsing it without the blanks around it. -/
theorem parse_of_read {date : Date} (h : read text = .ok date) :
    parse? text.trim = some date := by
  unfold read at h
  split at h
  · cases h
  · split at h
    · next hsome => rw [← Except.ok.inj h, hsome]
    · cases h

end

/-! ## No blanks around a date -/

/-- A year begins with a sign or a digit, not with a blank. -/
theorem WritesYear.exists_cons {text : Text} {year : Int} (h : WritesYear text year) :
    ∃ first rest, text = first :: rest ∧ Text.isBlank first = false := by
  cases h with
  | bare _ hdigits =>
      obtain ⟨first, later, rfl⟩ := List.exists_cons_of_ne_nil hdigits.1
      exact ⟨first, later, rfl, Text.not_blank_of_digit (hdigits.2 first List.mem_cons_self)⟩
  | plus digits => exact ⟨'+', digits, rfl, by decide⟩
  | minus digits => exact ⟨'-', digits, rfl, by decide⟩

/-- The number of a month or day ends with a digit, not with a blank. -/
theorem WritesPart.exists_concat {text : Text} {n : Nat} (h : WritesPart text n) :
    ∃ front last, text = front ++ [last] ∧ Text.isBlank last = false := by
  cases h with
  | intro blanks digits _ hdigits =>
      have hlast := List.dropLast_concat_getLast hdigits.1
      refine ⟨'-' :: (blanks ++ digits.dropLast), digits.getLast hdigits.1, ?_, ?_⟩
      · rw [List.cons_append, List.append_assoc, hlast]
      · exact Text.not_blank_of_digit (hdigits.2 _ (List.getLast_mem hdigits.1))

/-- A text that writes a date has no blanks around it. -/
theorem Writes.trim {text : Text} {date : Date} (h : Writes text date) : text.trim = text := by
  obtain ⟨year, month, day, date, hyear, _, hday⟩ := h
  obtain ⟨first, rest, rfl, hfirst⟩ := hyear.exists_cons
  obtain ⟨front, last, rfl, hlast⟩ := hday.exists_concat
  apply Text.trim_of_ends
  · simpa using hfirst
  · rw [← List.append_assoc, ← List.append_assoc, List.getLast?_concat]
    simpa using hlast

/-- A text that writes a date in use is read as it. -/
theorem read_of_writes {text : Text} {date : Date} (h : Writes text date)
    (hvalid : date.isValid = true) : read text = .ok date := by
  unfold read
  rw [h.trim]
  split
  · -- The empty text writes no date.
    have hparse := h.parse hvalid
    simp [parse?, leadingYear, leadingNumber] at hparse
  · rw [h.parse hvalid]

end Date

end ForumQuery
