import ForumQuery.Proofs.Text.Numerals
import ForumQuery.Proofs.Toml.Spacing
import ForumQuery.Toml.Reader

/-!
# Scalars and bare keys

Bare keys, whole numbers in decimal and truth values are read as they are written, if what follows
them shows where they end.
-/

namespace ForumQuery.Toml

/-! ## Bare keys -/

/-- A part of a key that is written without quotes. -/
def IsBare (key : Text) : Prop :=
  key ≠ [] ∧ ∀ c ∈ key, isBareChar c = true

instance (key : Text) : Decidable (IsBare key) :=
  decidable_of_iff (key ≠ [] ∧ key.all isBareChar = true) (by rw [IsBare, List.all_eq_true])

/-- A key ends in front of the text: no further character of a part follows, and no dot behind
space. -/
def EndsKey (text : Text) : Prop :=
  (∀ c ∈ text.head?, isBareChar c = false) ∧ (skipSpace text).head? ≠ some '.'

theorem bare_char_ne {c d : Char} (h : isBareChar c = true) (hd : isBareChar d = false) : c ≠ d := by
  rintro rfl
  simp [hd] at h

theorem bare_char_stands {c : Char} (h : isBareChar c = true) : Stands c := by
  refine ⟨?_, bare_char_ne h (by decide), bare_char_ne h (by decide), bare_char_ne h (by decide)⟩
  cases hspace : isSpace c
  · rfl
  · rcases space_cases hspace with rfl | rfl <;> exact absurd h (by decide)

theorem IsBare.cons {key : Text} (h : IsBare key) :
    ∃ c rest, key = c :: rest ∧ isBareChar c = true := by
  obtain ⟨hne, hchars⟩ := h
  obtain ⟨c, rest, rfl⟩ := List.exists_cons_of_ne_nil hne
  exact ⟨c, rest, rfl, hchars c (by simp)⟩

theorem IsBare.skip_lines {key : Text} (h : IsBare key) (rest : Text) :
    skipLines (key ++ rest) = key ++ rest := by
  obtain ⟨c, later, rfl, hc⟩ := h.cons
  exact skip_lines_stands (bare_char_stands hc) _

theorem IsBare.skip_space {key : Text} (h : IsBare key) (rest : Text) :
    skipSpace (key ++ rest) = key ++ rest := by
  obtain ⟨c, later, rfl, hc⟩ := h.cons
  exact skip_space_stands (bare_char_stands hc).1 _

/-- A bare part is read up to the first character that cannot belong to it. -/
theorem key_part_bare {key rest : Text} (hkey : IsBare key)
    (hrest : ∀ c ∈ rest.head?, isBareChar c = false) : keyPart? (key ++ rest) = some (key, rest) := by
  have hrun : (key ++ rest).takeWhile isBareChar = key := by
    rw [List.takeWhile_append_of_pos hkey.2]
    cases rest with
    | nil => simp
    | cons c rest => simp [hrest c rfl]
  obtain ⟨c, later, rfl, hc⟩ := hkey.cons
  unfold keyPart?
  split
  · next h => exact absurd (List.cons.inj h).1 (bare_char_ne hc (by decide))
  · next h => exact absurd (List.cons.inj h).1 (bare_char_ne hc (by decide))
  · rw [hrun]
    simp

theorem key_parts_bare {key rest : Text} (hkey : IsBare key) (hrest : EndsKey rest) (limit : Nat) :
    keyParts? (limit + 1) (key ++ rest) = some ([key], skipSpace rest) := by
  rw [keyParts?, key_part_bare hkey hrest.1]
  simp only [Option.bind_eq_bind, Option.bind_some]
  split
  · next h => exact absurd (congrArg List.head? h) hrest.2
  · rfl

/-- A key of one bare part. -/
theorem key_bare {key rest : Text} (hkey : IsBare key) (hrest : EndsKey rest) :
    key? (key ++ rest) = some ([key], skipSpace rest) :=
  key_parts_bare hkey hrest 79

/-- A gap keeps the parts of a key apart. -/
theorem Run.bare_head {text rest : Text} (h : Gap text rest)
    (hrest : ∀ c ∈ rest.head?, isBareChar c = false) : ∀ c ∈ text.head?, isBareChar c = false := by
  cases h with
  | none => exact hrest
  | char hc _ =>
      rintro _ ⟨⟩
      rcases space_cases hc with rfl | rfl <;> decide

/-- A key of two bare parts. -/
theorem key_dotted {first second dot after rest : Text} (hfirst : IsBare first)
    (hsecond : IsBare second) (hdot : Gap dot ('.' :: after)) (hafter : Gap after (second ++ rest))
    (hrest : EndsKey rest) : key? (first ++ dot) = some ([first, second], skipSpace rest) := by
  have hend : ∀ c ∈ dot.head?, isBareChar c = false :=
    hdot.bare_head (by rintro _ ⟨⟩; decide)
  have hskip : skipSpace dot = '.' :: after := hdot.drop_while
  have hpart : skipSpace after = second ++ rest :=
    (hafter.drop_while).trans (hsecond.skip_space rest)
  rw [key?, maxKeyParts, keyParts?, key_part_bare hfirst hend]
  simp only [Option.bind_eq_bind, Option.bind_some, hskip, hpart, key_parts_bare hsecond hrest 78]
  rfl

/-- A key ends in front of a gap if it ends behind it. -/
theorem Run.ends_key {text rest : Text} (h : Gap text rest) (hrest : EndsKey rest) :
    EndsKey text := by
  refine ⟨h.bare_head hrest.1, ?_⟩
  rw [skipSpace, h.drop_while]
  exact hrest.2

theorem ends_key_cons {c : Char} (h : isBareChar c = false) (hspace : isSpace c = false)
    (hdot : c ≠ '.') (text : Text) : EndsKey (c :: text) := by
  refine ⟨?_, ?_⟩
  · rintro _ ⟨⟩
    exact h
  · rw [skip_space_stands hspace]
    simpa using hdot

theorem LineEnd.ends_key {text rest : Text} (h : LineEnd text rest) : EndsKey text := by
  cases h <;> exact ends_key_cons (by decide) (by decide) (by decide) _

theorem Pause.ends_key {text rest : Text} (h : Pause text rest) (hrest : EndsKey rest) :
    EndsKey text := by
  cases h with
  | gap hgap => exact hgap.ends_key hrest
  | line hblank hend _ =>
      cases hblank with
      | gap hgap => exact hgap.ends_key hend.ends_key
      | comment hgap _ =>
          exact hgap.ends_key (ends_key_cons (by decide) (by decide) (by decide) _)

/-! ## Scalars -/

/-- `Denotes depth written value` says that the text is read as the value, with containers at most
`depth` deep, if no more of a scalar follows. -/
structure Denotes (depth : Nat) (written : Text) (value : Value) : Prop where
  stands : ∃ c rest, written = c :: rest ∧ Stands c
  read : ∀ rest, scalarRun rest = [] →
    valueWithin? depth (written ++ rest) = some (value, rest)

/-- A character that can stand anywhere in a bare scalar. -/
def IsScalarChar (c : Char) : Prop :=
  endsScalar c = false ∧ isSpace c = false ∧ isQuote c = false

instance (c : Char) : Decidable (IsScalarChar c) :=
  inferInstanceAs (Decidable (_ ∧ _ ∧ _))

theorem IsScalarChar.ne {c d : Char} (h : IsScalarChar c) (hd : ¬ IsScalarChar d) : c ≠ d := by
  rintro rfl
  exact hd h

theorem scalar_run_append {written rest : Text} (hwritten : ∀ c ∈ written, IsScalarChar c)
    (hrest : scalarRun rest = []) : scalarRun (written ++ rest) = written := by
  induction written with
  | nil => exact hrest
  | cons c written ih =>
      obtain ⟨hends, hspace, _⟩ := hwritten c (by simp)
      have hrun := ih fun d hd => hwritten d (by simp [hd])
      rw [List.cons_append, scalarRun]
      simp [hends, hspace, hrun]

/-- A bare scalar denotes the value of its characters. -/
theorem denotes_scalar {written : Text} {value : Value} (hne : written ≠ [])
    (hchars : ∀ c ∈ written, IsScalarChar c) (hvalue : scalarOf? written = some value)
    (depth : Nat) : Denotes depth written value := by
  obtain ⟨c, later, rfl⟩ := List.exists_cons_of_ne_nil hne
  have hc : IsScalarChar c := hchars c (by simp)
  refine ⟨⟨c, later, rfl, hc.2.1, hc.ne (by decide), hc.ne (by decide), hc.ne (by decide)⟩, ?_⟩
  intro rest hrest
  -- The first character opens neither a container nor a string.
  have hscalar : valueWithin? depth ((c :: later) ++ rest) = scalar? ((c :: later) ++ rest) := by
    unfold valueWithin?
    split
    · next h => exact absurd (List.cons.inj h).1 (hc.ne (by decide))
    · next h => exact absurd (List.cons.inj h).1 (hc.ne (by decide))
    · rfl
  rw [hscalar]
  unfold scalar?
  split
  · next h => exact absurd (List.cons.inj h).1 (hc.ne (by decide))
  · next h => exact absurd (List.cons.inj h).1 (hc.ne (by decide))
  · simp only [scalar_run_append hchars hrest, hvalue, Option.map_some, List.drop_left]

theorem denotes_boolean (depth : Nat) (b : Bool) :
    Denotes depth (if b then "true".toList else "false".toList) (.boolean b) := by
  have hchars : ∀ b : Bool, (if b then "true".toList else "false".toList).all
      (fun c => IsScalarChar c) = true := by decide
  simp only [List.all_eq_true, decide_eq_true_eq] at hchars
  refine denotes_scalar ?_ (hchars b) ?_ depth
  · cases b <;> decide
  · cases b <;> rfl

/-! ### Whole numbers in decimal -/

theorem decimal_char {n : Int} {c : Char} (h : c ∈ Text.decimal n) :
    c = '-' ∨ c.isDigit = true := by
  unfold Text.decimal at h
  split at h
  · rcases List.mem_cons.1 h with rfl | hdigit
    · exact Or.inl rfl
    · exact Or.inr (Text.isDigit_of_mem_digits hdigit)
  · exact Or.inr (Text.isDigit_of_mem_digits h)

theorem decimal_char_ne {n : Int} {c d : Char} (h : c ∈ Text.decimal n) (hdash : d ≠ '-')
    (hdigit : d.isDigit = false) : c ≠ d := by
  rintro rfl
  rcases decimal_char h with rfl | hc
  · exact hdash rfl
  · simp [hdigit] at hc

theorem decimal_scalar_char {n : Int} {c : Char} (h : c ∈ Text.decimal n) : IsScalarChar c := by
  have hne : ∀ d : Char, d ≠ '-' → d.isDigit = false → c ≠ d := fun d => decimal_char_ne h
  simp [IsScalarChar, endsScalar, isSpace, isQuote, hne]

theorem unsigned_decimal (n : Int) : unsigned (Text.decimal n) = Text.digits n.natAbs := by
  obtain ⟨c, rest, hdecimal, hsign, hc⟩ := Text.decimal_cons n
  by_cases hneg : n < 0
  · rw [Text.decimal, if_pos hneg]
    rfl
  · have hdash : c ≠ '-' := fun h => hneg (hsign.1 h)
    have hplus : c ≠ '+' := decimal_char_ne (n := n) (by simp [hdecimal]) (by decide) (by decide)
    have hdigits : Text.decimal n = Text.digits n.natAbs := if_neg hneg
    rw [← hdigits, hdecimal, unsigned, if_neg (by simp [isSign, hdash, hplus])]

theorem no_leading_zero (n : Nat) : hasLeadingZero (Text.digits n) = false := by
  cases n with
  | zero => rfl
  | succ n =>
      have hhead := Text.digits_head (Nat.succ_pos n)
      unfold hasLeadingZero
      split
      · next h => exact absurd (congrArg List.head? h) hhead
      · rfl

/-- A text without underscores has none in the wrong place. -/
theorem underscores_fit {isDigit : Char → Bool} {text : Text} (h : ∀ c ∈ text, c ≠ '_')
    (before : Bool) : underscoresFitAfter isDigit before text = true := by
  induction text generalizing before with
  | nil => cases before <;> rfl
  | cons c text ih =>
      rw [underscoresFitAfter]
      · exact ih (fun d hd => h d (by simp [hd])) _
      · exact h c (by simp)

/-- A number in decimal has the form of a whole number. -/
theorem is_decimal (n : Int) : WholeNumber.isDecimal (Text.decimal n) = true := by
  have hfit : ∀ c ∈ Text.decimal n, c ≠ '_' :=
    fun c hc => decimal_char_ne hc (by decide) (by decide)
  have hrun : (Text.digits n.natAbs).dropWhile Char.isDigit = [] := by
    rw [← List.append_nil (Text.digits n.natAbs),
      List.dropWhile_append_of_pos fun _ => Text.isDigit_of_mem_digits]
    rfl
  simp [WholeNumber.isDecimal, underscoresFit, unsigned_decimal, no_leading_zero,
    underscores_fit hfit, hrun, Text.digits_ne_nil]

/-- A number in decimal is read as a whole number. -/
theorem scalar_of_decimal (n : Int) : scalarOf? (Text.decimal n) = some (.integer n) := by
  have hne : ∀ d : Char, d ≠ '-' → d.isDigit = false → d ∉ Text.decimal n :=
    fun d hdash hdigit hmem => decimal_char_ne hmem hdash hdigit rfl
  -- No sign or digit is a letter that marks another base, nor one of `true` or `false`.
  have hnumber : WholeNumber.ofRun? (Text.decimal n) = some (.decimal (Text.decimal n)) := by
    have hwritten : (Text.decimal n).filter (· != '_') = Text.decimal n :=
      List.filter_eq_self.2 fun c hc => bne_iff_ne.2 (decimal_char_ne hc (by decide) (by decide))
    unfold WholeNumber.ofRun?
    split
    · next h => exact absurd (h ▸ by simp) (hne 'x' (by decide) (by decide))
    · next h => exact absurd (h ▸ by simp) (hne 'o' (by decide) (by decide))
    · next h => exact absurd (h ▸ by simp) (hne 'b' (by decide) (by decide))
    · rw [if_pos (is_decimal n), hwritten]
  have htrue : Text.decimal n ≠ "true".toList :=
    fun h => hne 'e' (by decide) (by decide) (h ▸ by decide)
  have hfalse : Text.decimal n ≠ "false".toList :=
    fun h => hne 'e' (by decide) (by decide) (h ▸ by decide)
  rw [scalarOf?, if_neg htrue, if_neg hfalse, hnumber]
  simp [WholeNumber.value?, Text.readInt?_decimal]

theorem denotes_integer (depth : Nat) (n : Int) :
    Denotes depth (Text.decimal n) (.integer n) := by
  obtain ⟨c, rest, hdecimal, _⟩ := Text.decimal_cons n
  exact denotes_scalar (by simp [hdecimal]) (fun c hc => decimal_scalar_char hc)
    (scalar_of_decimal n) depth

end ForumQuery.Toml
