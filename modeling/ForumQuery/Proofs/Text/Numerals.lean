import ForumQuery.Text.Numeral

/-!
# The texts that denote whole numbers

`Numeral` says which texts denote a whole number, without reading them. `read_int_iff` says
that reading finds exactly the number that a text denotes. Where a written number ends in a longer
text can be seen if no digit follows it (`decimal_append_inj`).
-/

namespace ForumQuery.Text

/-- One or more ASCII digits and nothing else. -/
def IsDigits (text : Text) : Prop :=
  text ≠ [] ∧ ∀ c ∈ text, c.isDigit = true

/-- The text denotes the number: ASCII digits in base ten, after at most one sign. -/
inductive Numeral : Text → Int → Prop where
  | unsigned (digits) : IsDigits digits → Numeral digits (Nat.ofDigitChars 10 digits 0)
  | plus (digits) : IsDigits digits → Numeral ('+' :: digits) (Nat.ofDigitChars 10 digits 0)
  | minus (digits) : IsDigits digits → Numeral ('-' :: digits) (-(Nat.ofDigitChars 10 digits 0))

theorem read_nat_iff {text : Text} {n : Nat} :
    readNat? text = some n ↔ IsDigits text ∧ Nat.ofDigitChars 10 text 0 = n := by
  simp [readNat?, IsDigits]

/-- Reading a text of digits gives their value. -/
theorem IsDigits.read {digits : Text} (h : IsDigits digits) :
    readNat? digits = some (Nat.ofDigitChars 10 digits 0) :=
  read_nat_iff.2 ⟨h, rfl⟩

/-- A text that reads as a whole number denotes it. -/
theorem read_int_sound {text : Text} {n : Int} (h : readInt? text = some n) :
    Numeral text n := by
  unfold readInt? at h
  split at h
  all_goals
    obtain ⟨value, hread, rfl⟩ := Option.map_eq_some_iff.1 h
    obtain ⟨hdigits, rfl⟩ := read_nat_iff.1 hread
  · exact .minus _ hdigits
  · exact .plus _ hdigits
  · exact .unsigned _ hdigits

/-- A text that denotes a whole number reads as it. -/
theorem read_int_complete {text : Text} {n : Int} (h : Numeral text n) :
    readInt? text = some n := by
  cases h with
  | unsigned _ hdigits =>
      unfold readInt?
      -- Digits do not begin with a sign.
      split
      · exact absurd (hdigits.2 '-' (by simp)) (by decide)
      · exact absurd (hdigits.2 '+' (by simp)) (by decide)
      · rw [hdigits.read, Option.map_some]
  | plus _ hdigits => rw [readInt?, hdigits.read, Option.map_some]
  | minus _ hdigits => rw [readInt?, hdigits.read, Option.map_some]

theorem read_int_iff {text : Text} {n : Int} : readInt? text = some n ↔ Numeral text n :=
  ⟨read_int_sound, read_int_complete⟩

/-- Reading in an interval finds the denoted number if it lies in the interval. -/
theorem Interval.read_iff {range : Interval} {text : Text} {n : Int} :
    range.read? text = some n ↔ Numeral text n ∧ range.low ≤ n ∧ n ≤ range.high := by
  simp [Interval.read?, Option.filter_eq_some_iff, read_int_iff, Interval.holds]

/-- No digit stands at the front of the text. -/
def NoDigit (text : Text) : Prop :=
  ∀ c ∈ text.head?, c.isDigit = false

/-- Digits with no digit behind them are all the digits at the front. -/
theorem take_digits {digits back : Text} (hdigits : ∀ c ∈ digits, c.isDigit = true)
    (hback : NoDigit back) : (digits ++ back).takeWhile Char.isDigit = digits := by
  rw [List.takeWhile_append_of_pos hdigits]
  cases back with
  | nil => simp
  | cons c back => simp [hback c rfl]

/-- The digits of a number show it, if no digit follows them. -/
theorem digits_append_inj {m n : Nat} {back after : Text} (hback : NoDigit back)
    (hafter : NoDigit after) (h : digits m ++ back = digits n ++ after) :
    m = n ∧ back = after := by
  have hrun := congrArg (List.takeWhile Char.isDigit) h
  rw [take_digits (fun _ => isDigit_of_mem_digits) hback,
    take_digits (fun _ => isDigit_of_mem_digits) hafter] at hrun
  have hread := readNat?_digits m
  rw [hrun, readNat?_digits] at hread
  rw [hrun] at h
  exact ⟨(Option.some.inj hread).symm, List.append_cancel_left h⟩

/-- No number but zero is written with a zero in front. -/
theorem digits_head {n : Nat} (h : 0 < n) : (digits n).head? ≠ some '0' := by
  have hdigit : ∀ n < 10, 0 < n → [n.digitChar].head? ≠ some '0' := by decide
  induction n using Nat.strongRecOn with
  | ind n ih =>
      unfold digits
      rw [Nat.toDigits_eq_if (by decide)]
      split
      · next hsmall => exact hdigit n hsmall h
      · next hlarge =>
          obtain ⟨c, rest, hdigits⟩ := List.exists_cons_of_ne_nil (digits_ne_nil (n / 10))
          have hhead := ih (n / 10) (by omega) (by omega)
          show (digits (n / 10) ++ _).head? ≠ some '0'
          rw [hdigits] at hhead ⊢
          exact hhead

/-- A whole number in decimal begins with a dash or a digit. -/
theorem decimal_cons (n : Int) :
    ∃ c rest, decimal n = c :: rest ∧ (c = '-' ↔ n < 0) ∧ (c = '-' ∨ c.isDigit = true) := by
  rw [decimal]
  split
  · next h => exact ⟨'-', _, rfl, iff_of_true rfl h, Or.inl rfl⟩
  · next h =>
      obtain ⟨c, rest, hdigits⟩ := List.exists_cons_of_ne_nil (digits_ne_nil n.natAbs)
      have hdigit : c.isDigit = true := isDigit_of_mem_digits (n := n.natAbs) (by simp [hdigits])
      refine ⟨c, rest, hdigits, iff_of_false ?_ h, Or.inr hdigit⟩
      rintro rfl
      exact absurd hdigit (by decide)

/-- A whole number in decimal shows the number, if no digit follows it. -/
theorem decimal_append_inj {m n : Int} {back after : Text} (hback : NoDigit back)
    (hafter : NoDigit after) (h : decimal m ++ back = decimal n ++ after) :
    m = n ∧ back = after := by
  obtain ⟨c, rest, hm, hsign, _⟩ := decimal_cons m
  obtain ⟨d, later, hn, hsign', _⟩ := decimal_cons n
  have hhead : c = d := by
    rw [hm, hn] at h
    exact (List.cons.inj h).1
  subst hhead
  unfold decimal at h
  by_cases hneg : m < 0
  · have hneg' : n < 0 := hsign'.1 (hsign.2 hneg)
    rw [if_pos hneg, if_pos hneg'] at h
    obtain ⟨habs, hrest⟩ := digits_append_inj hback hafter (List.cons.inj h).2
    exact ⟨by omega, hrest⟩
  · have hneg' : ¬ n < 0 := fun hn => hneg (hsign.1 (hsign'.2 hn))
    rw [if_neg hneg, if_neg hneg'] at h
    obtain ⟨habs, hrest⟩ := digits_append_inj hback hafter h
    exact ⟨by omega, hrest⟩

end ForumQuery.Text
