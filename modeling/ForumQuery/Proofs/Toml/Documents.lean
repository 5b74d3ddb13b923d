import ForumQuery.Proofs.Toml.Fields
import ForumQuery.Toml.Document

/-!
# Documents, line by line

`Reads` says that a line of given signs is read as a statement, however they are spaced. A document
whose lines are all read as statements is read as these (`statements_of_lines`). `Yields` says less:
whatever a line is read as has a property. Behind lines that are read such a line yields a statement
of that property, or the document is not read (`statements_among`).
-/

namespace ForumQuery.Toml

/-- The first of the signs begins like a statement. -/
def Opens (signs : List Text) : Prop :=
  ∃ c rest others, signs = (c :: rest) :: others ∧ (isBareChar c = true ∨ c = '[')

/-- A line of these signs is read as the statement. -/
structure Reads (signs : List Text) (statement : Statement) : Prop where
  opens : Opens signs
  read : ∀ {text tail}, Spaced Gap signs text tail → scalarRun tail = [] →
    statement? (skipLines text) = some (statement, tail)

/-- If a line of these signs is read, the statement has the property. -/
structure Yields (signs : List Text) (property : Statement → Prop) : Prop where
  opens : Opens signs
  read : ∀ {text tail statement rest}, Spaced Gap signs text tail →
    statement? (skipLines text) = some (statement, rest) → property statement

/-- A line begins with the character that opens its first sign. -/
theorem Opens.start {signs : List Text} (h : Opens signs) {text tail : Text}
    (hspaced : Spaced Gap signs text tail) :
    ∃ c later, skipLines text = c :: later ∧ skipSpace text = c :: later ∧
      (isBareChar c = true ∨ c = '[') ∧ tail.length < text.length := by
  obtain ⟨c, rest, others, rfl, hc⟩ := h
  obtain ⟨middle, hgap, hothers⟩ := Spaced.cons_iff.1 hspaced
  have hstands : Stands c := by
    rcases hc with hbare | rfl
    · exact bare_char_stands hbare
    · decide
  have hlength : tail.length < text.length := by
    have hmiddle := hgap.length_le
    have htail := hothers.length_le skips_gap
    simp only [List.length_append, List.length_cons] at hmiddle
    omega
  exact ⟨c, rest ++ middle, hgap.skip_lines.trans (skip_lines_stands hstands _),
    hgap.drop_while.trans (skip_space_stands hstands.1 _), hc, hlength⟩

/-! ## Kinds of lines -/

/-- What does not begin with a bracket is an assignment. -/
theorem statement_assign {c : Char} {later : Text} (h : isBareChar c = true) :
    statement? (c :: later) =
      (pair? skipSpace value? (c :: later)).map fun found =>
        (.assign found.1.1 found.1.2, found.2) := by
  have hbracket : c ≠ '[' := bare_char_ne h (by decide)
  unfold statement?
  split
  · next hstart => exact absurd (List.cons.inj hstart).1 hbracket
  · next hstart => exact absurd (List.cons.inj hstart).1 hbracket
  · cases pair? skipSpace value? (c :: later) <;> rfl

section Assignment

variable {signs : List Text} {key : List Text} {written : Text}

/-- What a line that gives a value to a key is read as. -/
theorem statement_leads (hopens : Opens signs)
    (hleads : ∀ {text tail}, Spaced Gap signs text tail → Leads Gap skipSpace key written text tail)
    {text tail : Text} (h : Spaced Gap signs text tail) :
    statement? (skipLines text) = (pair? skipSpace value? (skipSpace text)).map fun found =>
      (.assign found.1.1 found.1.2, found.2) := by
  obtain ⟨c, later, hlines, hspace, _⟩ := hopens.start h
  obtain ⟨d, _, hstart, hd⟩ := (hleads h).start
  have hc : isBareChar c = true := by
    rw [hspace] at hstart
    rwa [(List.cons.inj hstart).1]
  rw [hlines, hspace, statement_assign hc]

/-- A line that gives a key the text of a value assigns the value. -/
theorem reads_assign (hopens : Opens signs)
    (hleads : ∀ {text tail}, Spaced Gap signs text tail → Leads Gap skipSpace key written text tail)
    {value : Value} (hvalue : Denotes maxDepth written value) :
    Reads signs (.assign key value) where
  opens := hopens
  read h htail := by
    have hvalue? : value? = valueWithin? maxDepth := rfl
    rw [statement_leads hopens hleads h, hvalue?, (hleads h).denotes skips_gap hvalue htail]
    rfl

/-- A line that gives a key the text of some value assigns what that is read as, if anything. -/
theorem yields_assign (hopens : Opens signs)
    (hleads : ∀ {text tail}, Spaced Gap signs text tail → Leads Gap skipSpace key written text tail)
    {property : Value → Prop} (hvalue : ∀ after rest value tail, Gap after (written ++ rest) →
      value? (skipSpace after) = some (value, tail) → property value) :
    Yields signs fun statement => ∃ value, statement = .assign key value ∧ property value where
  opens := hopens
  read h hread := by
    obtain ⟨after, hafter, hpair⟩ := (hleads h).read
    rw [statement_leads hopens hleads h, hpair] at hread
    obtain ⟨pair, hfound, hstatement⟩ := Option.map_eq_some_iff.1 hread
    obtain ⟨⟨value, tail⟩, hvalue?, rfl⟩ := Option.map_eq_some_iff.1 hfound
    cases hstatement
    exact ⟨value, rfl, hvalue after _ value tail hafter hvalue?⟩

/-- A line that gives a key the text of some value assigns the key something. -/
theorem yields_some (hopens : Opens signs)
    (hleads : ∀ {text tail}, Spaced Gap signs text tail →
      Leads Gap skipSpace key written text tail) :
    Yields signs fun statement => ∃ value, statement = .assign key value where
  opens := hopens
  read h hread := by
    have hany : Yields signs fun statement => ∃ value, statement = .assign key value ∧ True :=
      yields_assign hopens hleads fun _ _ _ _ _ _ => trivial
    obtain ⟨value, hstatement, _⟩ := hany.read h hread
    exact ⟨value, hstatement⟩

end Assignment

theorem opens_bare {key : Text} (h : IsBare key) (signs : List Text) : Opens (key :: signs) := by
  obtain ⟨c, rest, rfl, hc⟩ := h.cons
  exact ⟨c, rest, signs, rfl, Or.inl hc⟩

/-- A field on a line of its own. -/
theorem reads_field {field : Field} {entry : Text × Value} (h : Fills maxDepth field entry) :
    Reads field.signs (.assign [entry.1] entry.2) := by
  rw [← h.key]
  exact reads_assign (opens_bare h.bare _) (leads_field skips_gap h.bare) h.value

/-- A field of a table, with the name of the table in front. -/
theorem reads_dotted {outer : Text} (houter : IsBare outer) {field : Field}
    {entry : Text × Value} (h : Fills maxDepth field entry) :
    Reads (outer :: ['.'] :: field.signs) (.assign [outer, entry.1] entry.2) := by
  rw [← h.key]
  exact reads_assign (opens_bare houter _) (leads_dotted houter h.bare) h.value

/-- A gap in front of a bare key does not look like a second bracket. -/
theorem gap_bare_head {key text rest : Text} (hbare : IsBare key) (hgap : Gap text (key ++ rest)) :
    ∃ c later, text = c :: later ∧ c ≠ '[' := by
  obtain ⟨d, others, rfl, hd⟩ := hbare.cons
  cases hgap with
  | none => exact ⟨d, others ++ rest, rfl, bare_char_ne hd (by decide)⟩
  | @char c later _ hc _ =>
      refine ⟨c, later, rfl, ?_⟩
      rintro rfl
      exact absurd hc (by decide)

/-- The header of a table. -/
theorem reads_header {key : Text} (hbare : IsBare key) :
    Reads [['['], key, [']']] (.header [key]) where
  opens := ⟨'[', [], _, rfl, Or.inr rfl⟩
  read {text tail} h _ := by
    simp only [Spaced.cons_iff, Spaced.nil_iff] at h
    obtain ⟨name, (hopen : Gap text ('[' :: name)), close, hname, rest,
      (hclose : Gap close (']' :: rest)), rfl⟩ := h
    have hstart : skipLines text = '[' :: name :=
      hopen.skip_lines.trans (skip_lines_stands (by decide) name)
    have hkey : key? (skipSpace name) = some ([key], ']' :: rest) := by
      rw [(skip_bare skips_gap hbare hname).2, key_bare hbare
        (hclose.ends_key (ends_key_cons (by decide) (by decide) (by decide) _))]
      exact congrArg (fun rest => some ([key], rest)) hclose.drop_while
    obtain ⟨c, later, rfl, hc⟩ := gap_bare_head hbare hname
    rw [hstart]
    unfold statement?
    split
    · next h => exact absurd (List.cons.inj (List.cons.inj h).2).1 hc
    · next h =>
        cases h
        rw [hkey]
        rfl
    · next hother => exact absurd rfl (hother (c :: later))

/-! ### Lines whose values are not known -/

/-- A field on a line of its own gives its key some value. -/
theorem yields_field {field : Field} (hbare : IsBare field.key) :
    Yields field.signs fun statement => ∃ value, statement = .assign [field.key] value :=
  yields_some (opens_bare hbare _) (leads_field skips_gap hbare)

/-- A field with the name of its table in front gives its key some value there. -/
theorem yields_dotted {outer : Text} (houter : IsBare outer) {field : Field}
    (hbare : IsBare field.key) : Yields (outer :: ['.'] :: field.signs)
      fun statement => ∃ value, statement = .assign [outer, field.key] value :=
  yields_some (opens_bare houter _) (leads_dotted houter hbare)

/-- An inline table has the key of each of its fields. -/
theorem yields_braced {table stray : Field} {front back : List Field} (htable : IsBare table.key)
    (h : Braced (front ++ stray :: back) table.written) (hbare : IsBare stray.key)
    {entries : Entries} (hfills : List.Forall₂ (Fills 79) front entries) :
    Yields table.signs fun statement => ∃ value, statement = .assign [table.key] value ∧
      ∃ inner, value = .table .inline inner ∧ (Entries.get? inner stray.key).isSome := by
  refine yields_assign (opens_bare htable _) (leads_field skips_gap htable) ?_
  intro after rest value tail hafter hread
  have hskipped : skipSpace after = table.written ++ rest := by
    obtain ⟨_, body, hbody, _⟩ := h
    rw [hbody] at hafter ⊢
    exact hafter.drop_while.trans (skip_space_stands (by decide) _)
  rw [hskipped] at hread
  exact braced_among h hbare hfills hread

/-! ## Documents -/

/-- Lines that are read as statements make a document of these. -/
theorem statements_within_read {lines : List (List Text)} {statements : List Statement}
    (hreads : List.Forall₂ Reads lines statements) {text : Text} (hlines : Lines lines text)
    {limit : Nat} (hlimit : text.length < limit) :
    statementsWithin? limit text = some statements := by
  obtain ⟨limit, rfl⟩ := Nat.exists_eq_succ_of_ne_zero (Nat.ne_zero_of_lt hlimit)
  induction hlines generalizing statements limit with
  | nil hpause hend =>
      cases hreads
      rw [statementsWithin?, hpause.skip_lines, hend.skip_all]
  | cons hpause hsigns htail _ ih =>
      obtain ⟨statement, others, hread, hothers, rfl⟩ := List.forall₂_cons_left_iff.1 hreads
      obtain ⟨c, later, hstart, _, _, hshorter⟩ := hread.opens.start hsigns
      have hstatement := hread.read hsigns htail.scalar_run
      -- A line takes at least a character, so a smaller limit does for the others.
      have hrest := htail.length_le
      have htext := hpause.length_le
      obtain ⟨limit, rfl⟩ := Nat.exists_eq_succ_of_ne_zero (show limit ≠ 0 by omega)
      rw [statementsWithin?, hpause.skip_lines]
      rw [hstart] at hstatement ⊢
      simp only [hstatement, htail.end_line, Option.bind_eq_bind, Option.bind_some]
      rw [ih hothers limit (by omega)]
      rfl

/-- Behind lines that are read as statements a line yields one with its property, or the document
is not read. -/
theorem statements_within_among {front back : List (List Text)} {signs : List Text}
    {statements : List Statement} (hreads : List.Forall₂ Reads front statements)
    {property : Statement → Prop} (hyields : Yields signs property) {text : Text}
    (hlines : Lines (front ++ signs :: back) text) {limit : Nat} {all : List Statement}
    (h : statementsWithin? limit text = some all) :
    ∃ found later, property found ∧ all = statements ++ found :: later := by
  induction hreads generalizing text limit all with
  | nil =>
      cases hlines with
      | cons hpause hsigns htail _ =>
          obtain ⟨c, later, hstart, _⟩ := hyields.opens.start hsigns
          cases limit with
          | zero => cases h
          | succ limit =>
              rw [statementsWithin?, hpause.skip_lines, hstart] at h
              simp only [Option.bind_eq_bind, Option.bind_eq_some_iff] at h
              obtain ⟨⟨found, _⟩, hfound, _, _, others, _, ⟨⟩⟩ := h
              rw [← hstart] at hfound
              exact ⟨found, others, hyields.read hsigns hfound, rfl⟩
  | cons hread _ ih =>
      cases hlines with
      | cons hpause hsigns htail hlines =>
          obtain ⟨c, later, hstart, _⟩ := hread.opens.start hsigns
          have hstatement := hread.read hsigns htail.scalar_run
          cases limit with
          | zero => cases h
          | succ limit =>
              rw [statementsWithin?, hpause.skip_lines] at h
              rw [hstart] at hstatement h
              simp only [hstatement, htail.end_line, Option.bind_eq_bind, Option.bind_some,
                Option.bind_eq_some_iff] at h
              obtain ⟨others, hothers, ⟨⟩⟩ := h
              obtain ⟨found, later, hfound, rfl⟩ := ih hlines hothers
              exact ⟨found, later, hfound, rfl⟩

/-- A document of lines has no byte order mark. -/
theorem statements_eq {lines : List (List Text)} {text : Text} (hlines : Lines lines text)
    (hopens : ∀ signs ∈ lines.head?, Opens signs) :
    statements? text = statementsWithin? (text.length + 1) text := by
  have hstart : ∀ c ∈ (skipLines text).head?, c ≠ '\ufeff' := by
    cases hlines with
    | nil hpause hend =>
        rw [hpause.skip_lines, hend.skip_all]
        simp
    | cons hpause hsigns =>
        obtain ⟨c, later, hskipped, _, hc, _⟩ := (hopens _ rfl).start hsigns
        rw [hpause.skip_lines, hskipped]
        rintro _ ⟨⟩ rfl
        exact absurd hc (by decide)
  have hmark : text.head? ≠ some '\ufeff' := by
    intro h
    cases text with
    | nil => cases h
    | cons c later =>
        cases h
        rw [skip_lines_stands (by decide)] at hstart
        exact hstart _ rfl rfl
  rw [statements?, if_neg hmark]

/-- A document whose lines are read as statements is read as these. -/
theorem statements_of_lines {lines : List (List Text)} {statements : List Statement}
    (hreads : List.Forall₂ Reads lines statements) {text : Text} (hlines : Lines lines text) :
    statements? text = some statements := by
  have hopens : ∀ signs ∈ lines.head?, Opens signs := by
    cases hreads with
    | nil => simp
    | cons hread _ =>
        rintro _ ⟨⟩
        exact hread.opens
  rw [statements_eq hlines hopens]
  exact statements_within_read hreads hlines (Nat.lt_succ_self _)

/-- A document with a line behind lines that are read as statements has a statement with the
property of that line there, or is not read. -/
theorem statements_among {front back : List (List Text)} {signs : List Text}
    {statements : List Statement} (hreads : List.Forall₂ Reads front statements)
    {property : Statement → Prop} (hyields : Yields signs property) {text : Text}
    (hlines : Lines (front ++ signs :: back) text) {all : List Statement}
    (h : statements? text = some all) :
    ∃ found later, property found ∧ all = statements ++ found :: later := by
  have hopens : ∀ first ∈ (front ++ signs :: back).head?, Opens first := by
    cases hreads with
    | nil =>
        rintro _ ⟨⟩
        exact hyields.opens
    | cons hread _ =>
        rintro _ ⟨⟩
        exact hread.opens
  rw [statements_eq hlines hopens] at h
  exact statements_within_among hreads hyields hlines h

end ForumQuery.Toml
