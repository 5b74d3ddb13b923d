import ForumQuery.Proofs.Calendar.Timestamps
import ForumQuery.Proofs.Extraction.Punctuation

/-!
# Which texts are dates

`Date.Accepts` says which texts are read as which date: those that write it, with any blanks around
them, if the day exists in the calendar in use. The main statement, `dates_read_exactly`, says that
reading gives just these dates, and which of its two complaints any other text gets. So a date that
is written out, with zeros in front of its numbers or without, is read as itself.
-/

namespace ForumQuery

namespace Text

/-- What is trimmed away are blanks. -/
theorem exists_trim (text : Text) :
    ∃ front back, text = front ++ (trim text ++ back) ∧ (∀ c ∈ front, isBlank c = true) ∧
      ∀ c ∈ back, isBlank c = true := by
  obtain ⟨back, hrest, hback⟩ := exists_drop_end isBlank (text.dropWhile isBlank)
  refine ⟨text.takeWhile isBlank, back, ?_, fun _ => List.mem_takeWhile_imp, hback⟩
  rw [trim, ← hrest, List.takeWhile_append_dropWhile]

/-- More blanks around a text are trimmed away as well. -/
theorem trim_around {front back : Text} (text : Text) (hfront : ∀ c ∈ front, isBlank c = true)
    (hback : ∀ c ∈ back, isBlank c = true) : trim (front ++ (text ++ back)) = trim text := by
  rw [trim, trim, List.dropWhile_append_of_pos hfront, List.dropWhile_append]
  split
  · next hempty =>
      rw [List.isEmpty_iff.1 hempty, List.dropWhile_eq_nil_iff.2 hback]
  · rw [dropEndWhile, List.reverse_append, List.dropWhile_append_of_pos (by simpa using hback)]
    rfl

/-- Nothing is left of a text exactly if all its characters are blanks. -/
theorem trim_eq_nil_iff {text : Text} : trim text = [] ↔ ∀ c ∈ text, isBlank c = true := by
  constructor
  · intro hnil
    obtain ⟨front, back, htext, hfront, hback⟩ := exists_trim text
    rw [hnil, List.nil_append] at htext
    rw [htext, List.forall_mem_append]
    exact ⟨hfront, hback⟩
  · intro hblank
    rw [trim, List.dropWhile_eq_nil_iff.2 hblank]
    rfl

end Text

namespace Date

variable {text : Text}

/-- `Accepts text date` says that the text writes the date, with any blanks around, and that the
day exists in the calendar in use. -/
inductive Accepts : Text → Date → Prop where
  | intro (front written back date) :
      (∀ c ∈ front, Text.isBlank c = true) → (∀ c ∈ back, Text.isBlank c = true) →
      Writes written date → date.IsDay → -262143 ≤ date.year → date.year ≤ 262142 →
      Accepts (front ++ (written ++ back)) date

/-- The texts of blanks alone are those that count as empty. -/
theorem read_empty_iff : read text = .error .empty ↔ ∀ c ∈ text, Text.isBlank c = true := by
  rw [← Text.trim_eq_nil_iff, read]
  split
  · next hnil => simp [hnil]
  · next hne =>
      have hne : text.trim ≠ [] := hne
      split <;> simp [hne]

/-- Reading gives a date or one of two complaints. -/
theorem read_cases (text : Text) :
    read text = .error .empty ∨ read text = .error .invalidDate ∨
      ∃ date, read text = .ok date := by
  unfold read
  split
  · exact Or.inl rfl
  · split
    · exact Or.inr (Or.inr ⟨_, rfl⟩)
    · exact Or.inr (Or.inl rfl)

/-- A text is read as the dates that it writes with blanks around, if they are in use. -/
theorem read_ok_iff {date : Date} : read text = .ok date ↔ Accepts text date := by
  constructor
  · intro h
    obtain ⟨hwrites, hvalid⟩ := parse_iff.1 (parse_of_read h)
    obtain ⟨hday, hfirst, hlast⟩ := is_valid_iff.1 hvalid
    obtain ⟨front, back, htext, hfront, hback⟩ := Text.exists_trim text
    rw [htext]
    exact .intro front _ back date hfront hback hwrites hday hfirst hlast
  · rintro ⟨front, written, back, date, hfront, hback, hwrites, hday, hfirst, hlast⟩
    have htrim := (Text.trim_around written hfront hback).trans hwrites.trim
    have hread := read_of_writes hwrites (is_valid_iff.2 ⟨hday, hfirst, hlast⟩)
    rw [read, hwrites.trim] at hread
    rw [read, htrim]
    exact hread

/-- A text that is no date is one with other characters than blanks, which is not read as any. -/
theorem read_invalid_iff :
    read text = .error .invalidDate ↔
      (∃ c ∈ text, Text.isBlank c = false) ∧ ∀ date, ¬ Accepts text date := by
  have hempty : (∃ c ∈ text, Text.isBlank c = false) ↔ read text ≠ .error .empty := by
    simp [read_empty_iff]
  simp only [hempty, ← read_ok_iff]
  rcases read_cases text with h | h | ⟨date, h⟩ <;> simp [h]

end Date

/-- A text of blanks alone is empty to the reader of dates. Any other is read as the date that it
writes, with any blanks around, if that is a day of the calendar in use, and else is no date. So a
day of the calendar in use that is written out, each number with zeros in front of it or without,
and with any blanks around, is read as itself. -/
theorem dates_read_exactly :
    (∀ text,
      (Date.read text = .error .empty ↔ ∀ c ∈ text, Text.isBlank c = true) ∧
      (∀ date, Date.read text = .ok date ↔ Date.Accepts text date) ∧
      (Date.read text = .error .invalidDate ↔
        (∃ c ∈ text, Text.isBlank c = false) ∧ ∀ date, ¬ Date.Accepts text date)) ∧
    ∀ date : Date, date.IsDay → -262143 ≤ date.year → date.year ≤ 262142 →
      ∀ yearWidth ≤ 4, ∀ monthWidth ≤ 2, ∀ dayWidth ≤ 2, ∀ front back : Text,
      (∀ c ∈ front, Text.isBlank c = true) → (∀ c ∈ back, Text.isBlank c = true) →
      Date.read (front ++ (date.text yearWidth monthWidth dayWidth ++ back)) = .ok date := by
  refine ⟨fun text => ⟨Date.read_empty_iff, fun _ => Date.read_ok_iff,
    Date.read_invalid_iff⟩, ?_⟩
  intro date hday hfirst hlast yearWidth hyear monthWidth hmonth dayWidth hdays front back hfront
    hback
  have hwrites := Date.writes_text hday hyear hmonth hdays
  exact Date.read_ok_iff.2 (.intro front _ back date hfront hback hwrites hday hfirst hlast)

/-- The leap day of a negative year that ends a century reads back, padded or not; and with spaces
before the numbers of month and day it is still the same date. -/
theorem dates_read_exactly_leap_day :
    let day : Date := ⟨-400, 2, 29⟩
    day.IsDay ∧ Date.read " -0400-02-29\t".toList = .ok day ∧
      Date.read "-400-2-29 ".toList = .ok day ∧ Date.Accepts "-400-  2- 29".toList day := by
  intro day
  have hday : day.IsDay := Date.is_day_iff.2 (by decide)
  have hfirst : -262143 ≤ day.year := by decide
  have hlast : day.year ≤ 262142 := by decide
  obtain ⟨hexact, hback⟩ := dates_read_exactly
  have hread := hback day hday hfirst hlast
  have hspace : ∀ c ∈ [' '], Text.isBlank c = true := List.forall_mem_singleton.2 (by decide)
  have htab : ∀ c ∈ ['\t'], Text.isBlank c = true := List.forall_mem_singleton.2 (by decide)
  have hpadded := hread 4 (by decide) 2 (by decide) 2 (by decide) [' '] ['\t'] hspace htab
  have hbare := hread 0 (by decide) 0 (by decide) 0 (by decide) [] [' '] (by simp) hspace
  have htexts : day.text 4 2 2 = "-0400-02-29".toList ∧ day.text 0 0 0 = "-400-2-29".toList := by
    decide +kernel
  rw [htexts.1] at hpadded
  rw [htexts.2] at hbare
  have hspaced : Date.read "-400-  2- 29".toList = .ok day := by decide +kernel
  exact ⟨hday, hpadded, hbare, ((hexact _).2.1 day).1 hspaced⟩

end ForumQuery
