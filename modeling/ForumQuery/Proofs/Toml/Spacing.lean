import ForumQuery.Toml.Scalar

/-!
# Space in a TOML document

The relations here say what stands between the front of a text and what is left of it: space within
a line (`Gap`), space, line ends and comments (`Pause`), the end of a line (`EndsLine`), or some
signs with space before each of them (`Spaced`). `Lines` says that a whole text consists of lines of
given signs. None of them mentions a reader; the lemmas say what the readers of space make of each.
-/

namespace ForumQuery.Toml

/-- `Run test text rest` says that the characters in front of the rest all satisfy the test. -/
inductive Run (test : Char → Bool) : Text → Text → Prop where
  | none (text) : Run test text text
  | char {c text rest} : test c = true → Run test text rest → Run test (c :: text) rest

/-- Space within a line, or none, in front of the rest. -/
abbrev Gap : Text → Text → Prop :=
  Run isSpace

/-- Space and maybe a comment in front of the rest. -/
inductive Blank : Text → Text → Prop where
  | gap {text rest} : Gap text rest → Blank text rest
  | comment {text contents rest} : Gap text ('#' :: contents) → Run isContent contents rest →
      Blank text rest

/-- The end of a line in front of the rest. -/
inductive LineEnd : Text → Text → Prop where
  | feed (rest) : LineEnd ('\n' :: rest) rest
  | returnFeed (rest) : LineEnd ('\r' :: '\n' :: rest) rest

/-- Space, line ends and comments in front of the rest, and no comment open there. -/
inductive Pause : Text → Text → Prop where
  | gap {text rest} : Gap text rest → Pause text rest
  | line {text ending start rest} : Blank text ending → LineEnd ending start → Pause start rest →
      Pause text rest

/-- `EndsLine text rest` says that nothing follows on the line, and the rest of the document begins
on the next one. The last line ends with the document. -/
def EndsLine (text rest : Text) : Prop :=
  ∃ ending, Blank text ending ∧ (LineEnd ending rest ∨ ending = [] ∧ rest = [])

/-- `Spaced gap signs text rest` says that the signs stand in front of the rest, each of them behind
a gap. -/
inductive Spaced (gap : Text → Text → Prop) : List Text → Text → Text → Prop where
  | nil (text) : Spaced gap [] text text
  | cons {sign signs text middle rest} : gap text (sign ++ middle) →
      Spaced gap signs middle rest → Spaced gap (sign :: signs) text rest

/-- `Lines lines text` says that the text consists of the lines, each of them given by its signs.
Between them there may be blank lines and comments. -/
inductive Lines : List (List Text) → Text → Prop where
  | nil {text ending} : Pause text ending → Blank ending [] → Lines [] text
  | cons {signs lines text start tail rest} : Pause text start → Spaced Gap signs start tail →
      EndsLine tail rest → Lines lines rest → Lines (signs :: lines) text

/-- A character that is neither space nor begins a line end or a comment. -/
def Stands (c : Char) : Prop :=
  isSpace c = false ∧ c ≠ '\n' ∧ c ≠ '\r' ∧ c ≠ '#'

instance (c : Char) : Decidable (Stands c) :=
  inferInstanceAs (Decidable (_ ∧ _))

theorem space_cases {c : Char} (h : isSpace c = true) : c = ' ' ∨ c = '\t' := by
  simpa [isSpace] using h

theorem content_ne {c : Char} (h : isContent c = true) : c ≠ '\n' ∧ c ≠ '\r' := by
  constructor <;> (rintro rfl; exact absurd h (by decide))

/-! ## What stands in front stays there in a longer text -/

theorem Run.append {test : Char → Bool} {text rest : Text} (h : Run test text rest)
    (more : Text) : Run test (text ++ more) (rest ++ more) := by
  induction h with
  | none text => exact .none _
  | char hc _ ih => exact .char hc ih

theorem Blank.append {text rest : Text} (h : Blank text rest) (more : Text) :
    Blank (text ++ more) (rest ++ more) := by
  cases h with
  | gap hgap => exact .gap (hgap.append more)
  | comment hgap hcontents => exact .comment (hgap.append more) (hcontents.append more)

theorem LineEnd.append {text rest : Text} (h : LineEnd text rest) (more : Text) :
    LineEnd (text ++ more) (rest ++ more) := by
  cases h with
  | feed => exact .feed _
  | returnFeed => exact .returnFeed _

theorem Pause.append {text rest : Text} (h : Pause text rest) (more : Text) :
    Pause (text ++ more) (rest ++ more) := by
  induction h with
  | gap hgap => exact .gap (hgap.append more)
  | line hblank hend _ ih => exact .line (hblank.append more) (hend.append more) ih

theorem Spaced.append {signs : List Text} {text rest : Text} (h : Spaced Pause signs text rest)
    (more : Text) : Spaced Pause signs (text ++ more) (rest ++ more) := by
  induction h with
  | nil => exact .nil _
  | cons hgap _ ih =>
      refine .cons ?_ ih
      rw [← List.append_assoc]
      exact hgap.append more

/-! ## Texts with one space between signs -/

theorem spaced_behind_spaces (signs : List Text) (rest : Text) :
    Spaced Gap signs ((signs.flatMap fun sign => ' ' :: sign) ++ rest) rest := by
  induction signs with
  | nil => exact .nil rest
  | cons sign signs ih =>
      refine .cons (.char rfl ?_) ih
      rw [← List.append_assoc]
      exact .none _

theorem spaced_joined (signs : List Text) (rest : Text) :
    Spaced Gap signs (Text.joined signs ++ rest) rest := by
  cases signs with
  | nil => exact .nil rest
  | cons sign signs =>
      rw [Text.joined_cons, List.append_assoc]
      exact .cons (.none _) (spaced_behind_spaces signs rest)

/-- The text with a line for each list of signs, one space between neighbours. -/
def document (lines : List (List Text)) : Text :=
  lines.flatMap fun signs => Text.joined signs ++ ['\n']

/-- Every list of lines is that of a document. -/
theorem lines_document (lines : List (List Text)) : Lines lines (document lines) := by
  induction lines with
  | nil => exact .nil (.gap (.none [])) (.gap (.none []))
  | cons signs lines ih =>
      rw [document, List.flatMap_cons, List.append_assoc]
      exact .cons (.gap (.none _)) (spaced_joined signs _)
        ⟨_, .gap (.none _), Or.inl (.feed _)⟩ ih

/-! ## What the readers of space leave -/

theorem Run.drop_while {test : Char → Bool} {text rest : Text} (h : Run test text rest) :
    text.dropWhile test = rest.dropWhile test := by
  induction h with
  | none => rfl
  | char hc _ ih => rw [List.dropWhile_cons_of_pos hc, ih]

theorem Run.length_le {test : Char → Bool} {text rest : Text} (h : Run test text rest) :
    rest.length ≤ text.length := by
  induction h with
  | none => exact Nat.le_refl _
  | char _ _ ih => exact Nat.le_succ_of_le ih

theorem Blank.length_le {text rest : Text} (h : Blank text rest) : rest.length ≤ text.length := by
  cases h with
  | gap hgap => exact hgap.length_le
  | comment hgap hcontents =>
      have hcomment := hgap.length_le
      have hrest := hcontents.length_le
      rw [List.length_cons] at hcomment
      omega

theorem LineEnd.length_le {text rest : Text} (h : LineEnd text rest) :
    rest.length ≤ text.length := by
  cases h <;> simp only [List.length_cons] <;> omega

theorem Pause.length_le {text rest : Text} (h : Pause text rest) : rest.length ≤ text.length := by
  induction h with
  | gap hgap => exact hgap.length_le
  | line hblank hend _ ih => exact Nat.le_trans ih (Nat.le_trans hend.length_le hblank.length_le)

theorem EndsLine.length_le {text rest : Text} (h : EndsLine text rest) :
    rest.length ≤ text.length := by
  obtain ⟨ending, hblank, hend | ⟨rfl, rfl⟩⟩ := h
  · exact Nat.le_trans hend.length_le hblank.length_le
  · exact hblank.length_le

theorem skip_lines_space {c : Char} (h : isSpace c = true) (text : Text) :
    skipLines (c :: text) = skipLines text := by
  rcases space_cases h with rfl | rfl <;> simp [skipLines, skipLinesFrom, isSpace]

theorem Run.skip_lines {text rest : Text} (h : Gap text rest) :
    skipLines text = skipLines rest := by
  induction h with
  | none => rfl
  | char hc _ ih => rw [skip_lines_space hc, ih]

theorem LineEnd.skip_from {text rest : Text} (h : LineEnd text rest) (comment : Bool) :
    skipLinesFrom comment text = skipLines rest := by
  cases h <;> simp [skipLines, skipLinesFrom]

/-- In a comment its contents are left out. -/
theorem Run.skip_comment {contents ending : Text} (h : Run isContent contents ending) :
    skipLinesFrom true contents = skipLinesFrom true ending := by
  induction h with
  | none => rfl
  | char hc _ ih =>
      obtain ⟨hfeed, hreturn⟩ := content_ne hc
      rw [skipLinesFrom, if_pos hc, ih]
      · exact hfeed
      · exact fun _ h => absurd h hreturn

/-- What is blank is left out, up to the end of the line. -/
theorem Blank.skip_from {text ending : Text} (h : Blank text ending) :
    ∃ comment, skipLines text = skipLinesFrom comment ending := by
  cases h with
  | gap hgap => exact ⟨false, hgap.skip_lines⟩
  | comment hgap hcontents =>
      refine ⟨true, ?_⟩
      rw [hgap.skip_lines, ← hcontents.skip_comment]
      simp [skipLines, skipLinesFrom]

theorem Blank.skip_lines {text ending rest : Text} (h : Blank text ending)
    (hend : LineEnd ending rest) : skipLines text = skipLines rest := by
  obtain ⟨comment, hskip⟩ := h.skip_from
  rw [hskip, hend.skip_from]

/-- Nothing is left of a document that ends after space or in a comment. -/
theorem Blank.skip_all {text : Text} (h : Blank text []) : skipLines text = [] := by
  obtain ⟨comment, hskip⟩ := h.skip_from
  rw [hskip]
  cases comment <;> rfl

/-- A pause is left out together with what follows of its kind. -/
theorem Pause.skip_lines {text rest : Text} (h : Pause text rest) :
    skipLines text = skipLines rest := by
  induction h with
  | gap hgap => exact hgap.skip_lines
  | line hblank hend _ ih => rw [hblank.skip_lines hend, ih]

theorem skip_lines_stands {c : Char} (h : Stands c) (text : Text) :
    skipLines (c :: text) = c :: text := by
  obtain ⟨hspace, hfeed, hreturn, hcomment⟩ := h
  rw [skipLines, skipLinesFrom, if_neg hcomment, if_neg (by simp [hspace])]
  · exact hfeed
  · exact fun _ h => absurd h hreturn

theorem skip_space_stands {c : Char} (h : isSpace c = false) (text : Text) :
    skipSpace (c :: text) = c :: text :=
  List.dropWhile_cons_of_neg (by simp [h])

/-- Leaving out the space first makes no difference. -/
theorem skip_lines_skip_space (text : Text) : skipLines (skipSpace text) = skipLines text := by
  induction text with
  | nil => rfl
  | cons c text ih =>
      by_cases hc : isSpace c = true
      · rw [skipSpace, List.dropWhile_cons_of_pos hc, skip_lines_space hc]
        exact ih
      · rw [skip_space_stands (by simpa using hc)]

/-! ## What ends a line or a scalar -/

theorem EndsLine.end_line {text rest : Text} (h : EndsLine text rest) :
    endLine? text = some rest := by
  obtain ⟨ending, hblank, hend⟩ := h
  cases hblank with
  | gap hgap =>
      rw [endLine?, skipSpace, hgap.drop_while]
      obtain (_ | _) | ⟨rfl, rfl⟩ := hend <;> rfl
  | comment hgap hcontents =>
      rw [endLine?, skipSpace, hgap.drop_while]
      show lineEnd? (List.dropWhile isContent _) = some rest
      rw [hcontents.drop_while]
      obtain (_ | _) | ⟨rfl, rfl⟩ := hend <;> rfl

theorem scalar_run_ends {c : Char} (h : endsScalar c = true) (text : Text) :
    scalarRun (c :: text) = [] := by
  rw [scalarRun, if_pos h]

/-- Space at the end of a scalar is no part of it. -/
theorem Run.scalar_run {text rest : Text} (h : Gap text rest) (hrest : scalarRun rest = []) :
    scalarRun text = [] := by
  induction h with
  | none => exact hrest
  | char hc _ ih =>
      rw [scalarRun]
      simp [ih hrest, hc]

theorem Blank.scalar_run {text ending : Text} (h : Blank text ending)
    (hending : scalarRun ending = []) : scalarRun text = [] := by
  cases h with
  | gap hgap => exact hgap.scalar_run hending
  | comment hgap _ => exact hgap.scalar_run (scalar_run_ends (by decide) _)

theorem LineEnd.scalar_run {text rest : Text} (h : LineEnd text rest) : scalarRun text = [] := by
  cases h <;> exact scalar_run_ends (by decide) _

theorem EndsLine.scalar_run {text rest : Text} (h : EndsLine text rest) :
    scalarRun text = [] := by
  obtain ⟨ending, hblank, hend | ⟨rfl, rfl⟩⟩ := h
  · exact hblank.scalar_run hend.scalar_run
  · exact hblank.scalar_run rfl

theorem Pause.scalar_run {text rest : Text} (h : Pause text rest) (hrest : scalarRun rest = []) :
    scalarRun text = [] := by
  cases h with
  | gap hgap => exact hgap.scalar_run hrest
  | line hblank hend _ => exact hblank.scalar_run hend.scalar_run

end ForumQuery.Toml
