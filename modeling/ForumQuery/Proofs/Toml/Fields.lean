import Mathlib.Data.List.Forall2
import ForumQuery.Proofs.Toml.Scalars
import ForumQuery.Proofs.Toml.Tables

/-!
# Keys with values, and inline tables

A field is a bare key and the text of its value. `Field.signs` are its signs on a line or in an
inline table, and `Braced` says that a text is the inline table of some fields. Whatever the space
between the signs, the fields are read in order (`items_listed`, `denotes_braced`); and a field among
them stays among them whatever the text of its value is read as (`items_among`, `braced_among`).
-/

namespace ForumQuery.Toml

/-- A key and the text of its value. -/
structure Field where
  key : Text
  written : Text

/-- The signs of a key that gets a value. -/
def Field.signs (field : Field) : List Text :=
  [field.key, ['='], field.written]

/-- `Fills depth field entry` says that the field gives the entry its value. -/
structure Fills (depth : Nat) (field : Field) (entry : Text × Value) : Prop where
  key : field.key = entry.1
  bare : IsBare field.key
  value : Denotes depth field.written entry.2

/-- A reader of space leaves out the gaps of a kind. -/
structure Skips (gap : Text → Text → Prop) (skip : Text → Text) : Prop where
  leaves : ∀ {text rest}, gap text rest → skip text = skip rest
  again : ∀ text, skip (skipSpace text) = skip text
  stops : ∀ {c}, Stands c → ∀ text, skip (c :: text) = c :: text
  pause : ∀ {text rest}, gap text rest → Pause text rest

theorem skips_gap : Skips Gap skipSpace where
  leaves hgap := hgap.drop_while
  again text := by
    induction text with
    | nil => rfl
    | cons c text ih =>
        cases hc : isSpace c
        · rw [skip_space_stands hc, skip_space_stands hc]
        · rw [skipSpace, skipSpace, List.dropWhile_cons_of_pos hc]
          exact ih
  stops hc text := skip_space_stands hc.1 text
  pause := .gap

theorem skips_pause : Skips Pause skipLines where
  leaves hpause := hpause.skip_lines
  again := skip_lines_skip_space
  stops := skip_lines_stands
  pause := id

variable {gap : Text → Text → Prop} {skip : Text → Text}

theorem Spaced.nil_iff {text rest : Text} : Spaced gap [] text rest ↔ text = rest :=
  ⟨fun h => by cases h; rfl, fun h => h ▸ .nil text⟩

theorem Spaced.cons_iff {sign : Text} {signs : List Text} {text rest : Text} :
    Spaced gap (sign :: signs) text rest ↔
      ∃ middle, gap text (sign ++ middle) ∧ Spaced gap signs middle rest := by
  constructor
  · rintro (_ | ⟨hgap, hrest⟩)
    exact ⟨_, hgap, hrest⟩
  · rintro ⟨middle, hgap, hrest⟩
    exact .cons hgap hrest

theorem Spaced.append_iff {front back : List Text} {text rest : Text} :
    Spaced gap (front ++ back) text rest ↔
      ∃ middle, Spaced gap front text middle ∧ Spaced gap back middle rest := by
  induction front generalizing text with
  | nil => simp [Spaced.nil_iff]
  | cons sign front ih =>
      simp only [List.cons_append, Spaced.cons_iff, ih]
      constructor
      · rintro ⟨start, hgap, middle, hfront, hback⟩
        exact ⟨middle, ⟨start, hgap, hfront⟩, hback⟩
      · rintro ⟨middle, ⟨start, hgap, hfront⟩, hback⟩
        exact ⟨start, hgap, middle, hfront, hback⟩

theorem Spaced.mono {gap' : Text → Text → Prop} {signs : List Text} {text rest : Text}
    (h : Spaced gap signs text rest) (hgap : ∀ {text rest}, gap text rest → gap' text rest) :
    Spaced gap' signs text rest := by
  induction h with
  | nil => exact .nil _
  | cons hfirst _ ih => exact .cons (hgap hfirst) ih

/-! ## One field -/

/-- `Leads gap skip key written text rest` says that the text begins with the key, an equals sign
and the written value, and then the rest follows; and that they are read as such, whatever reads the
value. -/
structure Leads (gap : Text → Text → Prop) (skip : Text → Text) (key : List Text)
    (written text rest : Text) : Prop where
  start : ∃ c later, skip text = c :: later ∧ isBareChar c = true
  read : ∃ after, gap after (written ++ rest) ∧ ∀ value : Text → Option (Value × Text),
    pair? skip value (skip text) = (value (skip after)).map fun found => ((key, found.1), found.2)

/-- An equals sign behind a key is found. -/
theorem leads_of_key (hskip : Skips gap skip) {key : List Text} {text start equals after : Text}
    (hstart : ∃ c later, skip text = c :: later ∧ isBareChar c = true) (htext : skip text = start)
    (hkey : key? start = some (key, skipSpace equals)) (hequals : gap equals ('=' :: after))
    {written rest : Text} (hwritten : gap after (written ++ rest)) :
    Leads gap skip key written text rest := by
  have hsign : skip (skipSpace equals) = '=' :: after := by
    have hstands : Stands '=' := by decide
    rw [hskip.again, hskip.leaves hequals, hskip.stops hstands]
  refine ⟨hstart, after, hwritten, fun value => ?_⟩
  rw [htext, pair?, hkey]
  simp only [Option.bind_eq_bind, Option.bind_some, hsign]
  cases value (skip after) <;> rfl

/-- A bare key is found behind a gap. -/
theorem skip_bare (hskip : Skips gap skip) {key : Text} (hbare : IsBare key) {text rest : Text}
    (hgap : gap text (key ++ rest)) :
    (∃ c later, skip text = c :: later ∧ isBareChar c = true) ∧ skip text = key ++ rest := by
  obtain ⟨c, later, rfl, hc⟩ := hbare.cons
  have hskipped : skip text = c :: later ++ rest := by
    rw [hskip.leaves hgap, List.cons_append, hskip.stops (bare_char_stands hc)]
  exact ⟨⟨c, later ++ rest, hskipped, hc⟩, hskipped⟩

/-- A key ends in front of an equals sign. -/
theorem ends_key_equals (hskip : Skips gap skip) {equals after : Text}
    (hequals : gap equals ('=' :: after)) : EndsKey equals :=
  (hskip.pause hequals).ends_key (ends_key_cons (by decide) (by decide) (by decide) after)

/-- A field begins with its key. -/
theorem leads_field (hskip : Skips gap skip) {field : Field} {text rest : Text}
    (hbare : IsBare field.key) (h : Spaced gap field.signs text rest) :
    Leads gap skip [field.key] field.written text rest := by
  simp only [Field.signs, Spaced.cons_iff, Spaced.nil_iff] at h
  obtain ⟨equals, hkey, after, hequals, _, hwritten, rfl⟩ := h
  obtain ⟨hstart, htext⟩ := skip_bare hskip hbare hkey
  exact leads_of_key hskip hstart htext (key_bare hbare (ends_key_equals hskip hequals)) hequals
    hwritten

/-- A field of a table that is named in front of it begins with a dotted key. -/
theorem leads_dotted {outer : Text} {field : Field} {text rest : Text} (houter : IsBare outer)
    (hbare : IsBare field.key) (h : Spaced Gap (outer :: ['.'] :: field.signs) text rest) :
    Leads Gap skipSpace [outer, field.key] field.written text rest := by
  simp only [Field.signs, Spaced.cons_iff, Spaced.nil_iff] at h
  obtain ⟨dot, hfirst, second, hdot, equals, hkey, after, hequals, _, hwritten, rfl⟩ := h
  obtain ⟨hstart, htext⟩ := skip_bare skips_gap houter hfirst
  have hread := key_dotted houter hbare hdot hkey (ends_key_equals skips_gap hequals)
  exact leads_of_key skips_gap hstart htext hread hequals hwritten

/-- A value is read behind its key. -/
theorem Leads.denotes (hskip : Skips gap skip) {key : List Text} {written text rest : Text}
    (h : Leads gap skip key written text rest) {depth : Nat} {value : Value}
    (hvalue : Denotes depth written value) (hrest : scalarRun rest = []) :
    pair? skip (valueWithin? depth) (skip text) = some ((key, value), rest) := by
  obtain ⟨after, hafter, hpair⟩ := h.read
  obtain ⟨c, later, hwritten, hc⟩ := hvalue.stands
  have hskipped : skip after = written ++ rest := by
    rw [hskip.leaves hafter, hwritten, List.cons_append, hskip.stops hc]
  rw [hpair, hskipped, hvalue.read rest hrest]
  rfl

/-! ## The fields of an inline table -/

/-- `Listed fields signs` says that the signs are those of an inline table of the fields behind its
opening brace. Between fields stands a comma, and there may be one behind the last. -/
inductive Listed : List Field → List Text → Prop where
  | closed : Listed [] [['\x7d']]
  | last (field : Field) : Listed [field] (field.signs ++ [['\x7d']])
  | more {fields signs} (field : Field) : Listed fields signs →
      Listed (field :: fields) (field.signs ++ [','] :: signs)

/-- The text is the inline table of the fields. -/
def Braced (fields : List Field) (text : Text) : Prop :=
  ∃ signs body, text = '\x7b' :: body ∧ Listed fields signs ∧ Spaced Pause signs body []

/-- The signs of an inline table with no comma behind the last field. -/
def listedSigns : List Field → List Text
  | [] => [['\x7d']]
  | [field] => field.signs ++ [['\x7d']]
  | field :: fields => field.signs ++ [','] :: listedSigns fields

theorem listed_signs (fields : List Field) : Listed fields (listedSigns fields) := by
  induction fields with
  | nil => exact .closed
  | cons field fields ih =>
      cases fields with
      | nil => exact .last field
      | cons second fields => exact .more field ih

/-- The inline table of the fields with one space in front of each sign. -/
def braced (fields : List Field) : Text :=
  '\x7b' :: (listedSigns fields).flatMap fun sign => ' ' :: sign

/-- Every list of fields has an inline table. -/
theorem braced_braced (fields : List Field) : Braced fields (braced fields) := by
  refine ⟨listedSigns fields, _, rfl, listed_signs fields, ?_⟩
  have hspaced := spaced_behind_spaces (listedSigns fields) []
  rw [List.append_nil] at hspaced
  exact hspaced.mono .gap

section Items

variable {α : Type} {close : Char} {item : Text → Option (α × Text)} {limit : Nat}
  {c : Char} {text later : Text}

/-- After an item stands a comma or the closing bracket. -/
theorem items_next (hstart : skipLines text = c :: later) (hopen : c ≠ close) {first : α}
    {middle : Text} (hitem : item (c :: later) = some (first, middle)) {d : Char} {rest : Text}
    (hnext : skipLines middle = d :: rest) :
    items? close item (limit + 1) text =
      if d = ',' then
        (items? close item limit rest).map fun found => (first :: found.1, found.2)
      else if d = close then some ([first], rest) else none := by
  rw [items?, hstart]
  simp only [if_neg hopen, hitem, Option.bind_eq_bind, Option.bind_some, hnext]
  cases items? close item limit rest <;> rfl

/-- If items are read, the first one is among them. -/
theorem items_first (hstart : skipLines text = c :: later) (hopen : c ≠ close)
    {found : List α} {rest : Text} (h : items? close item limit text = some (found, rest)) :
    ∃ first middle, item (c :: later) = some (first, middle) ∧ first ∈ found := by
  cases limit with
  | zero => cases h
  | succ limit =>
      rw [items?, hstart] at h
      simp only [if_neg hopen, Option.bind_eq_bind, Option.bind_eq_some_iff] at h
      obtain ⟨⟨first, middle⟩, hitem, hmore⟩ := h
      refine ⟨first, middle, hitem, ?_⟩
      split at hmore
      · cases hmore
      · split at hmore
        · simp only [Option.bind_eq_some_iff] at hmore
          obtain ⟨_, _, ⟨⟩⟩ := hmore
          exact List.mem_cons_self
        · split at hmore
          · cases hmore
            exact List.mem_cons_self
          · cases hmore

end Items

theorem Spaced.length_le (hskip : Skips gap skip) {signs : List Text} {text rest : Text}
    (h : Spaced gap signs text rest) : rest.length ≤ text.length := by
  induction h with
  | nil => exact Nat.le_refl _
  | cons hgap _ ih =>
      have hlength := (hskip.pause hgap).length_le
      rw [List.length_append] at hlength
      omega

/-- The first field of an inline table, and what it leaves of the text. -/
theorem field_read {depth : Nat} {field : Field} {entry : Text × Value}
    (hfills : Fills depth field entry) {text middle : Text}
    (h : Spaced Pause field.signs text middle) {d : Char} (hends : endsScalar d = true)
    (hstands : Stands d) {rest : Text} (hnext : Pause middle (d :: rest)) :
    ∃ c later, skipLines text = c :: later ∧ c ≠ '\x7d' ∧
      pair? skipLines (valueWithin? depth) (c :: later) = some (([entry.1], entry.2), middle) ∧
      skipLines middle = d :: rest := by
  have hleads := leads_field skips_pause hfills.bare h
  obtain ⟨c, later, hstart, hc⟩ := hleads.start
  have hpair := hleads.denotes skips_pause hfills.value
    (hnext.scalar_run (scalar_run_ends hends rest))
  rw [hstart, hfills.key] at hpair
  exact ⟨c, later, hstart, bare_char_ne hc (by decide), hpair,
    hnext.skip_lines.trans (skip_lines_stands hstands rest)⟩

/-- The fields of an inline table are read in order. -/
theorem items_listed {depth : Nat} {fields : List Field} {signs : List Text}
    (hlisted : Listed fields signs) {entries : Entries}
    (hfills : List.Forall₂ (Fills depth) fields entries) {text rest : Text}
    (h : Spaced Pause signs text rest) {limit : Nat} (hlimit : text.length < limit) :
    items? '\x7d' (pair? skipLines (valueWithin? depth)) limit text =
      some (entries.map fun entry => ([entry.1], entry.2), rest) := by
  obtain ⟨limit, rfl⟩ := Nat.exists_eq_succ_of_ne_zero (Nat.ne_zero_of_lt hlimit)
  induction hlisted generalizing entries text limit with
  | closed =>
      cases hfills
      obtain ⟨_, hclose, hrest⟩ := Spaced.cons_iff.1 h
      rw [Spaced.nil_iff.1 hrest] at hclose
      have hskipped : skipLines text = '\x7d' :: rest := hclose.skip_lines
      simp [items?, hskipped]
  | last field =>
      obtain ⟨entry, _, hfill, ⟨⟩, rfl⟩ := List.forall₂_cons_left_iff.1 hfills
      obtain ⟨middle, hfield, hclose⟩ := Spaced.append_iff.1 h
      obtain ⟨_, hclose, hrest⟩ := Spaced.cons_iff.1 hclose
      rw [Spaced.nil_iff.1 hrest] at hclose
      obtain ⟨c, later, hstart, hopen, hpair, hnext⟩ :=
        field_read hfill hfield (by decide) (by decide) hclose
      rw [items_next hstart hopen hpair hnext, if_neg (by decide), if_pos rfl]
      rfl
  | more field hlisted ih =>
      obtain ⟨entry, entries, hfill, hothers, rfl⟩ := List.forall₂_cons_left_iff.1 hfills
      obtain ⟨middle, hfield, hmore⟩ := Spaced.append_iff.1 h
      obtain ⟨after, (hcomma : Pause middle (',' :: after)), hrest⟩ := Spaced.cons_iff.1 hmore
      obtain ⟨c, later, hstart, hopen, hpair, hnext⟩ :=
        field_read hfill hfield (by decide) (by decide) hcomma
      -- A comma has been read, so a smaller limit does for the other fields.
      have hshorter : after.length < text.length := by
        have hmiddle := hfield.length_le skips_pause
        have hafter := hcomma.length_le
        rw [List.length_cons] at hafter
        omega
      obtain ⟨limit, rfl⟩ := Nat.exists_eq_succ_of_ne_zero (show limit ≠ 0 by omega)
      rw [items_next hstart hopen hpair hnext, if_pos rfl, ih hothers hrest limit (by omega)]
      rfl

/-- The text of an inline table denotes the table of its fields. -/
theorem denotes_braced {depth : Nat} {fields : List Field} {text : Text} (h : Braced fields text)
    {entries : Entries} (hfills : List.Forall₂ (Fills depth) fields entries)
    (hnodup : (entries.map Prod.fst).Nodup) :
    Denotes (depth + 1) text (.table .inline entries) := by
  obtain ⟨signs, body, rfl, hlisted, hspaced⟩ := h
  refine ⟨⟨'\x7b', body, rfl, by decide⟩, fun rest _ => ?_⟩
  have hread := items_listed hlisted hfills (hspaced.append rest) (Nat.lt_succ_self _)
  rw [List.cons_append, valueWithin?, List.nil_append] at *
  simp only [hread, inline_entries_new hnodup, Option.bind_eq_bind, Option.bind_some]
  rfl

theorem Listed.more_of_ne_nil {field : Field} {fields : List Field} {signs : List Text}
    (h : Listed (field :: fields) signs) (hne : fields ≠ []) :
    ∃ more, signs = field.signs ++ [','] :: more ∧ Listed fields more := by
  cases h with
  | last => exact absurd rfl hne
  | more _ hmore => exact ⟨_, rfl, hmore⟩

/-- A field among those of an inline table is among those that are read, whatever its value. -/
theorem items_among {depth : Nat} {front back : List Field} {stray : Field} {signs : List Text}
    (hlisted : Listed (front ++ stray :: back) signs) (hbare : IsBare stray.key)
    {entries : Entries} (hfills : List.Forall₂ (Fills depth) front entries) {text rest : Text}
    (h : Spaced Pause signs text rest) {limit : Nat} {pairs : List (List Text × Value)}
    {after : Text} (hread : items? '\x7d' (pair? skipLines (valueWithin? depth)) limit text =
      some (pairs, after)) : ∃ value, ([stray.key], value) ∈ pairs := by
  induction front generalizing signs entries text limit pairs with
  | nil =>
      have hfirst : ∃ more, signs = stray.signs ++ more := by
        cases hlisted with
        | last => exact ⟨_, rfl⟩
        | more => exact ⟨_, rfl⟩
      obtain ⟨more, rfl⟩ := hfirst
      obtain ⟨middle, hfield, _⟩ := Spaced.append_iff.1 h
      obtain ⟨⟨c, later, hstart, hc⟩, _, _, hpair⟩ := leads_field skips_pause hbare hfield
      obtain ⟨pair, _, hitem, hmem⟩ := items_first hstart (bare_char_ne hc (by decide)) hread
      rw [← hstart, hpair] at hitem
      obtain ⟨found, _, hfound⟩ := Option.map_eq_some_iff.1 hitem
      cases hfound
      exact ⟨found.1, hmem⟩
  | cons field front ih =>
      obtain ⟨entry, entries, hfill, hothers, rfl⟩ := List.forall₂_cons_left_iff.1 hfills
      obtain ⟨more, rfl, hmore⟩ := hlisted.more_of_ne_nil (by simp)
      obtain ⟨middle, hfield, hrest⟩ := Spaced.append_iff.1 h
      obtain ⟨start, (hcomma : Pause middle (',' :: start)), hrest⟩ := Spaced.cons_iff.1 hrest
      obtain ⟨c, later, hstart, hopen, hpair, hnext⟩ :=
        field_read hfill hfield (by decide) (by decide) hcomma
      cases limit with
      | zero => cases hread
      | succ limit =>
          rw [items_next hstart hopen hpair hnext, if_pos rfl] at hread
          obtain ⟨⟨others, _⟩, hothersRead, hpairs⟩ := Option.map_eq_some_iff.1 hread
          cases hpairs
          obtain ⟨value, hmem⟩ := ih hmore hothers hrest hothersRead
          exact ⟨value, List.mem_cons_of_mem _ hmem⟩

/-- The inline table that is read has the key of every field, whatever the value of that field. -/
theorem braced_among {depth : Nat} {front back : List Field} {stray : Field} {text : Text}
    (h : Braced (front ++ stray :: back) text) (hbare : IsBare stray.key) {entries : Entries}
    (hfills : List.Forall₂ (Fills depth) front entries) {rest after : Text} {value : Value}
    (hread : valueWithin? (depth + 1) (text ++ rest) = some (value, after)) :
    ∃ inner, value = .table .inline inner ∧ (Entries.get? inner stray.key).isSome := by
  obtain ⟨signs, body, rfl, hlisted, hspaced⟩ := h
  rw [List.cons_append, valueWithin?] at hread
  simp only [Option.bind_eq_bind, Option.bind_eq_some_iff] at hread
  obtain ⟨⟨pairs, _⟩, hitems, inner, hinner, ⟨⟩⟩ := hread
  obtain ⟨found, hmem⟩ := items_among hlisted hbare hfills (hspaced.append rest) hitems
  exact ⟨inner, rfl, inline_entries_key hinner hmem⟩

end ForumQuery.Toml
