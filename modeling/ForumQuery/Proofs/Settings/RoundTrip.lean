import ForumQuery.Proofs.Settings.Loading
import ForumQuery.Proofs.Settings.Straying

/-!
# Settings files are read as they are written

`load_written` is the main statement: a file that writes some of the settings, in any order and in
any of the ways to write the limits, is loaded as those settings and the defaults of the others; and
the same file with one more key that names nothing is rejected, whatever the value of that key.
-/

namespace ForumQuery

open Toml (Entries Draft Statement Value Reads Yields Fills Field)

namespace Settings

/-- The settings that are named, and the defaults of the others. -/
def keeping (settings : Settings) (names : List Setting) : Settings :=
  let default : Settings := {}
  ⟨if .timeZoneOffset ∈ names then settings.timeZoneOffset else default.timeZoneOffset,
    if .maxQueryLength ∈ names then settings.limits.maxQueryLength
      else default.limits.maxQueryLength,
    if .maxTermLength ∈ names then settings.limits.maxTermLength
      else default.limits.maxTermLength,
    if .requireTerms ∈ names then settings.limits.requireTerms
      else default.limits.requireTerms⟩

/-- What is declared of valid settings is in range. -/
theorem IsValid.in_range {settings : Settings} (hvalid : settings.IsValid)
    (names : List Setting) : (settings.declared names).InRange where
  timeZoneOffset seconds h := by
    obtain ⟨_, ⟨⟩⟩ := Option.ite_none_right_eq_some.1 h
    exact hvalid.timeZoneOffset
  maxQueryLength h := by
    obtain ⟨_, hzero⟩ := Option.ite_none_right_eq_some.1 h
    exact absurd hvalid.maxQueryLength.1 (by simp [Option.some.inj hzero])
  maxTermLength h := by
    obtain ⟨_, hzero⟩ := Option.ite_none_right_eq_some.1 h
    exact absurd hvalid.maxTermLength.1 (by simp [Option.some.inj hzero])

/-- What is not declared keeps its default. -/
theorem over_defaults_declared (settings : Settings) (names : List Setting) :
    (settings.declared names).overDefaults = settings.keeping names := by
  have hdefault : ∀ {α : Type} (given : Prop) [Decidable given] (value default : α),
      (if given then some value else none).getD default = if given then value else default := by
    intro α given _ value default
    split <;> rfl
  simp only [Declaration.overDefaults, declared, keeping, hdefault]

/-- What is declared in range is kept. -/
theorem IsValid.declared_settings {settings : Settings} (hvalid : settings.IsValid)
    (names : List Setting) :
    (settings.declared names).settings = .ok (settings.keeping names) :=
  Declaration.settings_ok_iff.2
    ⟨hvalid.in_range names, (over_defaults_declared settings names).symm⟩

/-! ## How the entries are read -/

/-- The fields of settings. -/
def fields (settings : Settings) (names : List Setting) : List Field :=
  names.map fun name => (name.entry settings).field

variable {settings : Settings} {names : List Setting}

theorem outer_fields_entries :
    outerFields (settings.entries names) = settings.fields (outerNames names) := by
  simp [outerFields, outerNames, entries, fields, List.filter_map, Function.comp_def,
    Setting.entry]

theorem limit_fields_entries :
    limitFields (settings.entries names) = settings.fields (limitNames names) := by
  simp [limitFields, limitNames, entries, fields, List.filter_map, Function.comp_def,
    Setting.entry]

theorem fills_fields (settings : Settings) (names : List Setting) (depth : Nat) :
    List.Forall₂ (Fills depth) (settings.fields names) (settings.valued names) := by
  rw [fields, valued, List.forall₂_map_left_iff, List.forall₂_map_right_iff, List.forall₂_same]
  exact fun name _ => name.fills settings depth

/-- Settings on lines of their own. -/
theorem reads_fields (settings : Settings) (names : List Setting) :
    List.Forall₂ Reads ((settings.fields names).map Field.signs)
      (names.map (assigned settings)) := by
  rw [fields, List.map_map, List.forall₂_map_left_iff, List.forall₂_map_right_iff,
    List.forall₂_same]
  exact fun name _ => Toml.reads_field (name.fills settings _)

/-- Settings on lines of their own, with the name of the table in front of each limit. -/
theorem reads_lines (settings : Settings) (names : List Setting) :
    List.Forall₂ Reads ((settings.entries names).map FileEntry.line)
      (names.map (assignedDotted settings)) := by
  rw [entries, List.map_map, List.forall₂_map_left_iff, List.forall₂_map_right_iff,
    List.forall₂_same]
  intro name _
  have hfills := name.fills settings Toml.maxDepth
  show Reads (if name.isLimit = true then _ else _) (if name.isLimit = true then _ else _)
  split
  · exact Toml.reads_dotted (by decide) hfills
  · exact Toml.reads_field hfills

theorem reads_limits_header : Reads limitsHeader (.header [Declaration.limitsKey]) :=
  Toml.reads_header (by decide)

/-- The keys and values of settings in an inline table. -/
theorem reads_limits_field (hnodup : names.Nodup) {table : Text}
    (htable : Toml.Braced (settings.fields names) table) :
    Reads (limitsField table).signs
      (.assign [Declaration.limitsKey] (.table .inline (settings.valued names))) := by
  have hbare : Toml.IsBare Declaration.limitsKey := by decide
  have hkeys : ((settings.valued names).map Prod.fst).Nodup := by
    rw [valued, List.map_map]
    exact List.Pairwise.map _ (fun _ _ hne hkey => hne (Setting.key_inj hkey)) hnodup
  have hdenotes := Toml.denotes_braced htable (fills_fields settings names 79) hkeys
  have hfills : Fills Toml.maxDepth (limitsField table)
      (Declaration.limitsKey, .table .inline (settings.valued names)) := ⟨rfl, hbare, hdenotes⟩
  exact Toml.reads_field hfills

/-! ## A file of settings -/

/-- A document declares what the entries do to which its statements lead. -/
theorem read_of_lines {lines : List (List Text)} {statements : List Statement}
    (hreads : List.Forall₂ Reads lines statements) {text : Text} (hlines : Toml.Lines lines text)
    {last : Draft} (hfold : statements.foldlM Draft.add? {} = some last) :
    Declaration.read? text = Declaration.ofEntries? last.entries := by
  rw [Declaration.read?, Toml.read?, Toml.statements_of_lines hreads hlines]
  simp only [Option.bind_eq_bind, Option.bind_some, hfold]
  rfl

/-- A file of some settings declares these. -/
theorem read_file (hvalid : settings.IsValid) (hnodup : names.Nodup) {text : Text}
    (h : IsFileOf (settings.entries names) text) :
    Declaration.read? text = some (settings.declared names) := by
  obtain ⟨lines, hlaid, hlines⟩ := h
  cases hlaid with
  | dotted =>
      obtain ⟨last, hfold, hshows⟩ := fold_dotted settings hnodup
      rw [read_of_lines (reads_lines settings names) hlines hfold]
      refine hshows.declares hvalid ?_
      unfold dottedLimits
      split
      · next hnone => exact hnone.symm
      · rfl
  | header =>
      rw [outer_fields_entries, limit_fields_entries] at hlines
      obtain ⟨last, hfold, hshows⟩ := fold_header settings hnodup
      have hreads := List.rel_append (reads_fields settings (outerNames names))
        (.cons reads_limits_header (reads_fields settings (limitNames names)))
      rw [read_of_lines hreads hlines hfold]
      exact hshows.declares hvalid rfl
  | inline hsplit htable =>
      rw [outer_fields_entries] at hsplit
      rw [limit_fields_entries] at htable
      obtain ⟨before, after, hnames, rfl, rfl⟩ := List.map_eq_append_iff.1 hsplit
      have hlimits : (limitNames names).Nodup := hnodup.filter _
      obtain ⟨last, hfold, hshows⟩ := fold_inline settings hnodup hnames
        (settings.valued (limitNames names))
      have hreads := List.rel_append (reads_fields settings before)
        (.cons (reads_limits_field hlimits htable) (reads_fields settings after))
      rw [read_of_lines hreads hlines hfold]
      exact hshows.declares hvalid rfl

/-! ## A file with a stray key -/

/-- A document declares nothing if, behind lines that are read, it has one whose statement leaves a
stray key under the header that is in force there. -/
theorem unread_among {front back : List (List Text)} {signs : List Text}
    {statements : List Statement} {property : Statement → Prop} {current : List Text}
    (hreads : List.Forall₂ Reads front statements) (hyields : Yields signs property)
    (hcurrent : ∀ {draft}, statements.foldlM Draft.add? {} = some draft → draft.current = current)
    (hastray : ∀ {draft next : Draft} {found}, property found → draft.current = current →
      draft.add? found = some next → Astray next.entries)
    {text : Text} (hlines : Toml.Lines (front ++ signs :: back) text) :
    Declaration.read? text = none := by
  rw [Declaration.read?, Toml.read?]
  cases hread : Toml.statements? text with
  | none => rfl
  | some all =>
      obtain ⟨found, later, hfound, rfl⟩ := Toml.statements_among hreads hyields hlines hread
      cases hfold : (statements ++ found :: later).foldlM Draft.add? {} with
      | none => simp [hfold]
      | some last =>
          have hnone := nothing_declared hcurrent (hastray hfound) hfold
          simp [hfold, hnone]

theorem assigned_assigns {statement : Statement} (h : statement ∈ names.map (assigned settings)) :
    ∃ key value, statement = .assign key value := by
  obtain ⟨name, _, rfl⟩ := List.mem_map.1 h
  exact ⟨_, _, rfl⟩

theorem assigned_dotted_assigns {statement : Statement}
    (h : statement ∈ names.map (assignedDotted settings)) :
    ∃ key value, statement = .assign key value := by
  obtain ⟨name, _, rfl⟩ := List.mem_map.1 h
  unfold assignedDotted
  split
  · exact ⟨_, _, rfl⟩
  · exact ⟨_, _, rfl⟩

variable {front back : List Setting} {stray : FileEntry} {text : Text}

/-- A stray key of the document itself, on a line behind lines that are read and no header. -/
theorem unread_outer (hstray : stray.IsStray) (houter : stray.isLimit = false)
    {lines later : List (List Text)} {statements : List Statement}
    (hreads : List.Forall₂ Reads lines statements)
    (hassign : ∀ statement ∈ statements, ∃ key value, statement = .assign key value)
    (hlines : Toml.Lines (lines ++ stray.field.signs :: later) text) :
    Declaration.read? text = none := by
  have hunknown : stray.field.key ∉ outerKeys := by simpa [houter] using hstray.unknown
  refine unread_among hreads (Toml.yields_field hstray.bare)
    (Toml.Draft.current_after_assign hassign) ?_ hlines
  rintro draft next _ ⟨value, rfl⟩ hcurrent hadd
  exact astray_outer hcurrent hunknown hadd

theorem unread_dotted (hstray : stray.IsStray) (hlines : Toml.Lines
    ((settings.entries front ++ stray :: settings.entries back).map FileEntry.line) text) :
    Declaration.read? text = none := by
  rw [List.map_append, List.map_cons] at hlines
  have hreads := reads_lines settings front
  cases hlimit : stray.isLimit with
  | false =>
      have hline : stray.line = stray.field.signs := by simp [FileEntry.line, hlimit]
      rw [hline] at hlines
      exact unread_outer hstray hlimit hreads (fun _ => assigned_dotted_assigns) hlines
  | true =>
      have hline : stray.line = Declaration.limitsKey :: ['.'] :: stray.field.signs := by
        simp [FileEntry.line, hlimit]
      have hunknown : stray.field.key ∉ limitKeys := by simpa [hlimit] using hstray.unknown
      rw [hline] at hlines
      refine unread_among hreads (Toml.yields_dotted (by decide) hstray.bare)
        (Toml.Draft.current_after_assign fun _ => assigned_dotted_assigns) ?_ hlines
      rintro draft next _ ⟨value, rfl⟩ hcurrent hadd
      exact astray_dotted hcurrent hunknown hadd

/-- The fields outside the limits, with a stray key somewhere among the entries. -/
theorem outer_fields_among (entries : List FileEntry) :
    outerFields (settings.entries front ++ stray :: entries) =
      settings.fields (outerNames front) ++
        if stray.isLimit then outerFields entries else stray.field :: outerFields entries := by
  rw [← outer_fields_entries]
  cases hlimit : stray.isLimit <;> simp [outerFields, hlimit]

/-- The fields of the limits, with a stray key somewhere among the entries. -/
theorem limit_fields_among (entries : List FileEntry) :
    limitFields (settings.entries front ++ stray :: entries) =
      settings.fields (limitNames front) ++
        if stray.isLimit then stray.field :: limitFields entries else limitFields entries := by
  rw [← limit_fields_entries]
  cases hlimit : stray.isLimit <;> simp [limitFields, hlimit]

theorem fields_append :
    settings.fields front ++ settings.fields back = settings.fields (front ++ back) :=
  List.map_append.symm

theorem unread_header (hstray : stray.IsStray) (hlines : Toml.Lines
    ((outerFields (settings.entries front ++ stray :: settings.entries back)).map Field.signs ++
      limitsHeader ::
        (limitFields (settings.entries front ++ stray :: settings.entries back)).map Field.signs)
      text) :
    Declaration.read? text = none := by
  rw [outer_fields_among, limit_fields_among, outer_fields_entries, limit_fields_entries] at hlines
  cases hlimit : stray.isLimit with
  | false =>
      simp only [hlimit, Bool.false_eq_true, if_false, List.map_append, List.map_cons,
        List.append_assoc, List.cons_append] at hlines
      exact unread_outer hstray hlimit (reads_fields settings (outerNames front))
        (fun _ => assigned_assigns) hlines
  | true =>
      have hunknown : stray.field.key ∉ limitKeys := by simpa [hlimit] using hstray.unknown
      have hreads := List.rel_append (reads_fields settings (outerNames front ++ outerNames back))
        (.cons reads_limits_header (reads_fields settings (limitNames front)))
      refine unread_among hreads (Toml.yields_field hstray.bare)
        (Toml.Draft.current_after_header fun _ => assigned_assigns) ?_
        (by simpa [hlimit, fields_append] using hlines)
      rintro draft next _ ⟨value, rfl⟩ hcurrent hadd
      exact astray_below_header hcurrent hunknown hadd

/-- What stands among the parts of a list stands in one of them. -/
theorem stray_side {α : Type} {front back before after : List α} {a : α}
    (h : front ++ a :: back = before ++ after) :
    (∃ later, before = front ++ a :: later) ∨
      ∃ more, front = before ++ more ∧ after = more ++ a :: back := by
  rcases List.append_eq_append_iff.1 h with ⟨more, rfl, hmore⟩ | ⟨more, rfl, rfl⟩
  · cases more with
    | nil => exact Or.inr ⟨[], by simp, hmore.symm⟩
    | cons b more =>
        obtain ⟨rfl, _⟩ := List.cons.inj hmore
        exact Or.inl ⟨more, rfl⟩
  · exact Or.inr ⟨more, rfl, rfl⟩

theorem unread_inline (hstray : stray.IsStray) (hnodup : (front ++ back).Nodup)
    {before after : List Field} {table : Text}
    (hsplit : outerFields (settings.entries front ++ stray :: settings.entries back) =
      before ++ after)
    (htable : Toml.Braced
      (limitFields (settings.entries front ++ stray :: settings.entries back)) table)
    (hlines : Toml.Lines (before.map Field.signs ++
      (limitsField table).signs :: after.map Field.signs) text) :
    Declaration.read? text = none := by
  rw [outer_fields_among, outer_fields_entries] at hsplit
  rw [limit_fields_among, limit_fields_entries] at htable
  cases hlimit : stray.isLimit with
  | false =>
      simp only [hlimit, Bool.false_eq_true, if_false, fields_append] at hsplit htable
      -- The stray key stands in front of the table of limits, or behind it.
      rcases stray_side hsplit with ⟨later, rfl⟩ | ⟨more, hfront, rfl⟩
      · exact unread_outer hstray hlimit (reads_fields settings (outerNames front))
          (fun _ => assigned_assigns) (by simpa using hlines)
      · obtain ⟨first, second, hnames, rfl, rfl⟩ := List.map_eq_append_iff.1 hfront
        have hlimits : (limitNames front ++ limitNames back).Nodup := by
          rw [limitNames, limitNames, ← List.filter_append]
          exact hnodup.filter _
        have hreads := List.rel_append (reads_fields settings first)
          (.cons (reads_limits_field hlimits htable) (reads_fields settings second))
        refine unread_outer hstray hlimit hreads ?_ (by simpa [fields] using hlines)
        simp only [List.mem_append, List.mem_cons]
        rintro statement (hfirst | rfl | hsecond)
        · exact assigned_assigns hfirst
        · exact ⟨_, _, rfl⟩
        · exact assigned_assigns hsecond
  | true =>
      simp only [hlimit, if_true, fields_append] at hsplit htable
      obtain ⟨first, _, _, rfl, _⟩ := List.map_eq_append_iff.1 hsplit
      have hunknown : stray.field.key ∉ limitKeys := by simpa [hlimit] using hstray.unknown
      have hbare : Toml.IsBare (limitsField table).key := by
        show Toml.IsBare Declaration.limitsKey
        decide
      have hyields := Toml.yields_braced hbare htable hstray.bare
        (fills_fields settings (limitNames front) 79)
      refine unread_among (reads_fields settings first) hyields
        (Toml.Draft.current_after_assign fun _ => assigned_assigns) ?_ hlines
      rintro draft next _ ⟨_, rfl, inner, rfl, hkey⟩ hcurrent hadd
      exact astray_inline hcurrent hkey hunknown hadd

/-- A file with a stray key declares nothing. -/
theorem unread_file (hstray : stray.IsStray) (hnodup : (front ++ back).Nodup)
    (h : IsFileOf (settings.entries front ++ stray :: settings.entries back) text) :
    Declaration.read? text = none := by
  obtain ⟨lines, hlaid, hlines⟩ := h
  cases hlaid with
  | dotted => exact unread_dotted hstray hlines
  | header => exact unread_header hstray hlines
  | inline hsplit htable => exact unread_inline hstray hnodup hsplit htable hlines

/-- A file that writes some of the settings, in any order and with the limits written in any way, is
loaded as those settings and the defaults of the others. With one more key, somewhere among them,
that names nothing where it stands the file is malformed, whatever the text of the value. -/
theorem load_written {settings : Settings} (hvalid : settings.IsValid) {names : List Setting}
    (hnodup : names.Nodup) {environment : Environment} {path contents : Text} (hpath : path ≠ [])
    (hfile : environment.files path = .text contents) :
    (IsFileOf (settings.entries names) contents →
      load environment (some path) = .ok (settings.keeping names)) ∧
    ∀ front back stray, front ++ back = settings.entries names → stray.IsStray →
      IsFileOf (front ++ stray :: back) contents →
        load environment (some path) = .error (.malformed path) := by
  rw [load_text hpath hfile, ofText]
  constructor
  · intro h
    rw [read_file hvalid hnodup h]
    exact hvalid.declared_settings names
  · intro front back stray hentries hstray h
    obtain ⟨first, second, rfl, rfl, rfl⟩ := List.map_eq_append_iff.1 hentries.symm
    rw [unread_file hstray hnodup h]

/-- The least offset and the greatest length stand in a file, which is malformed with a key for the
time zone by another name. -/
theorem load_written_extremes :
    let settings : Settings := ⟨-86399, 1, 18446744073709551615, true⟩
    let names : List Setting := [.maxTermLength, .timeZoneOffset, .maxQueryLength]
    let stray : FileEntry := ⟨false, "timezone".toList, "1".toList⟩
    let path := ['s']
    let contents := ("limits = \x7b max_term_length = 18446744073709551615 , " ++
      "max_query_length = 1 \x7d\ntime_zone_offset = -86399\n").toList
    let others := contents ++ "timezone = 1\n".toList
    IsFileOf (settings.entries names) contents ∧
      IsFileOf (settings.entries names ++ [stray]) others ∧
      load { files := fun _ => .text contents } (some path) =
        .ok ⟨-86399, 1, 18446744073709551615, false⟩ ∧
      load { files := fun _ => .text others } (some path) = .error (.malformed path) := by
  intro settings names stray path contents others
  have hvalid : settings.IsValid := ⟨by decide, by decide, by decide⟩
  have hstray : stray.IsStray := ⟨by decide, by decide⟩
  have hcontents : IsFileOf (settings.entries names) contents := by
    have hdocument : Toml.document (inlineLines (settings.entries names)) = contents := by
      decide +kernel
    exact hdocument ▸ (laid_out_inline _).is_file
  have hothers : IsFileOf (settings.entries names ++ [stray]) others := by
    have hdocument : Toml.document (inlineLines (settings.entries names ++ [stray])) = others := by
      decide +kernel
    exact hdocument ▸ (laid_out_inline _).is_file
  have hnodup : names.Nodup := by decide
  have hpath : path ≠ [] := by decide
  have hfile : ∀ text, ({ files := fun _ => .text text } : Environment).files path = .text text :=
    fun _ => rfl
  exact ⟨hcontents, hothers, (load_written hvalid hnodup hpath (hfile contents)).1 hcontents,
    (load_written hvalid hnodup hpath (hfile others)).2 _ [] stray (List.append_nil _) hstray
      hothers⟩

end Settings

end ForumQuery
