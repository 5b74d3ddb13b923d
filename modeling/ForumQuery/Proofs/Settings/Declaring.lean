import ForumQuery.Proofs.Settings.Writing

/-!
# What a settings file declares

`Shows` says what the entries of a document hold, whatever order they came in. Adding the statements
of a settings file one after the other leads to entries that show exactly the settings in the file
(`fold_dotted`, `fold_header`, `fold_inline`), and such entries declare these settings
(`Shows.declares`).
-/

namespace ForumQuery

open Toml (Entries Draft Origin Statement Value)

/-- The entries have the given ones outside the limits, and the table of limits if there is one. -/
structure Shows (entries outer : Entries) (limits : Option (Origin × Entries)) : Prop where
  outer : ∀ key, key ≠ Declaration.limitsKey → entries.get? key = outer.get? key
  limits : entries.get? Declaration.limitsKey = limits.map fun table => .table table.1 table.2

/-- The table of limits, if it was made by dotted keys. -/
def dottedLimits (inner : Entries) : Option (Origin × Entries) :=
  if inner = [] then none else some (.dotted, inner)

/-- The keys and values of settings in a document. -/
def Settings.valued (settings : Settings) (names : List Setting) : Entries :=
  names.map (Setting.valued settings)

theorem Setting.key_ne_limits (setting : Setting) : setting.key ≠ Declaration.limitsKey := by
  cases setting <;> decide

/-- Each setting that is there has its value, and no other key is there. -/
theorem Settings.get_valued (settings : Settings) (names : List Setting) (name : Setting) :
    (settings.valued names).get? name.key =
      if name ∈ names then some (name.value settings) else none := by
  induction names with
  | nil => rfl
  | cons first names ih =>
      show Entries.get? ((first.key, first.value settings) :: settings.valued names) _ = _
      rw [Entries.get_cons, ih]
      by_cases h : first = name
      · simp [h]
      · have hkey : first.key ≠ name.key := fun hkey => h (Setting.key_inj hkey)
        have hmem : name ∈ first :: names ↔ name ∈ names := by simp [Ne.symm h]
        simp only [if_neg hkey, hmem]

namespace Shows

variable {entries outer : Entries} {limits : Option (Origin × Entries)}

/-- A new key outside the limits. -/
theorem put_outer (h : Shows entries outer limits) {key : Text}
    (hkey : key ≠ Declaration.limitsKey) (hnew : outer.get? key = none) (value : Value) :
    Shows (entries.put key value) (outer ++ [(key, value)]) limits where
  outer other hother := by
    rw [Entries.get_put, Entries.get_append, h.outer other hother, Entries.get_cons]
    split
    · next hsame => simp [← hsame, hnew]
    · simp [Entries.get?]
  limits := by
    rw [Entries.get_put, if_neg hkey, h.limits]

/-- A new table of limits. -/
theorem put_limits (h : Shows entries outer limits) (origin : Origin) (inner : Entries) :
    Shows (entries.put Declaration.limitsKey (.table origin inner)) outer
      (some (origin, inner)) where
  outer other hother := by
    rw [Entries.get_put, if_neg hother.symm, h.outer other hother]
  limits := by
    rw [Entries.get_put, if_pos rfl]
    rfl

/-- A new key is added to the document. -/
theorem add_outer (h : Shows entries outer limits) {key : Text}
    (hkey : key ≠ Declaration.limitsKey) (hnew : outer.get? key = none) (value : Value) :
    ∃ next, Draft.add? ⟨entries, []⟩ (.assign [key] value) = some ⟨next, []⟩ ∧
      Shows next (outer ++ [(key, value)]) limits := by
  have hnone : entries.get? key = none := (h.outer key hkey).trans hnew
  refine ⟨entries.put key value, ?_, h.put_outer hkey hnew value⟩
  rw [Draft.add_assign, Entries.within?, Entries.assign?, Entries.alter_eq, hnone]
  rfl

/-- An inline table of limits is added to a document that has none. -/
theorem add_inline (h : Shows entries outer none) (inner : Entries) :
    ∃ next, Draft.add? ⟨entries, []⟩ (.assign [Declaration.limitsKey] (.table .inline inner)) =
      some ⟨next, []⟩ ∧ Shows next outer (some (.inline, inner)) := by
  refine ⟨entries.put Declaration.limitsKey (.table .inline inner), ?_, h.put_limits .inline inner⟩
  rw [Draft.add_assign, Entries.within?, Entries.assign?, Entries.alter_eq, h.limits]
  rfl

/-- A header opens the table of limits in a document that has none. -/
theorem add_header (h : Shows entries outer none) :
    ∃ next, Draft.add? ⟨entries, []⟩ (.header [Declaration.limitsKey]) =
      some ⟨next, [Declaration.limitsKey]⟩ ∧ Shows next outer (some (.header, [])) := by
  refine ⟨entries.put Declaration.limitsKey (.table .header []), ?_, h.put_limits .header []⟩
  rw [Draft.add_header, Entries.open?, Entries.alter_eq, h.limits]
  rfl

/-- Under the header a new key is added to the limits. -/
theorem add_below_header {inner : Entries} (h : Shows entries outer (some (.header, inner)))
    {key : Text} (hnew : inner.get? key = none) (value : Value) :
    ∃ next, Draft.add? ⟨entries, [Declaration.limitsKey]⟩ (.assign [key] value) =
      some ⟨next, [Declaration.limitsKey]⟩ ∧
      Shows next outer (some (.header, inner ++ [(key, value)])) := by
  refine ⟨_, ?_, h.put_limits .header (inner ++ [(key, value)])⟩
  rw [Draft.add_assign, Entries.within?, Entries.alter_eq, h.limits]
  simp [Entries.within?, Entries.assign_new hnew]

/-- With the name of the table in front a new key is added to the limits. -/
theorem add_dotted {inner : Entries} (h : Shows entries outer (dottedLimits inner)) {key : Text}
    (hnew : inner.get? key = none) (value : Value) :
    ∃ next, Draft.add? ⟨entries, []⟩ (.assign [Declaration.limitsKey, key] value) =
      some ⟨next, []⟩ ∧ Shows next outer (dottedLimits (inner ++ [(key, value)])) := by
  -- The first limit makes the table, and the others are added to it.
  have hmore : dottedLimits (inner ++ [(key, value)]) = some (.dotted, inner ++ [(key, value)]) :=
    if_neg (by simp)
  rw [hmore]
  refine ⟨_, ?_, h.put_limits .dotted (inner ++ [(key, value)])⟩
  rw [Draft.add_assign, Entries.within?, Entries.assign?, Entries.alter_eq, h.limits, dottedLimits]
  · by_cases hinner : inner = []
    · simp [hinner, Entries.assign?, Entries.alter?]
    · simp [hinner, Entries.assign_new hnew]
  · simp

end Shows

/-! ## Adding settings one after the other -/

/-- If one more setting can always be added, then any can that are not there yet. -/
theorem fold_settings {statement : Setting → Statement} (holds : List Setting → Draft → Prop)
    (hstep : ∀ {done name draft}, holds done draft → name ∉ done →
      ∃ next, Draft.add? draft (statement name) = some next ∧ holds (done ++ [name]) next)
    {names done : List Setting} {draft : Draft} (h : holds done draft)
    (hnodup : (done ++ names).Nodup) :
    ∃ last, (names.map statement).foldlM Draft.add? draft = some last ∧
      holds (done ++ names) last := by
  induction names generalizing done draft with
  | nil => exact ⟨draft, rfl, by simpa using h⟩
  | cons name names ih =>
      have hnew : name ∉ done := by
        intro hmem
        exact (List.nodup_append.1 hnodup).2.2 name hmem name (by simp) rfl
      obtain ⟨next, hadd, hnext⟩ := hstep h hnew
      obtain ⟨last, hfold, hlast⟩ := ih hnext (by simpa using hnodup)
      refine ⟨last, ?_, by simpa using hlast⟩
      rw [List.map_cons, List.foldlM_cons, hadd]
      exact hfold

section Folds

variable (settings : Settings)

/-- The statement that gives a setting its value, in the document itself or under a header. -/
def assigned (name : Setting) : Statement :=
  .assign [name.key] (name.value settings)

/-- The statement that gives a setting its value, with the name of the table in front of a limit. -/
def assignedDotted (name : Setting) : Statement :=
  if name.isLimit then .assign [Declaration.limitsKey, name.key] (name.value settings)
  else assigned settings name

variable {settings} {names done : List Setting} {entries outer : Entries}
  {limits : Option (Origin × Entries)}

theorem valued_concat (done : List Setting) (name : Setting) :
    settings.valued (done ++ [name]) =
      settings.valued done ++ [(name.key, name.value settings)] := by
  simp [Settings.valued, Setting.valued]

theorem valued_new {name : Setting} (h : name ∉ done) :
    (settings.valued done).get? name.key = none := by
  rw [settings.get_valued, if_neg h]

variable (settings)

/-- If a header in force lets new keys be added, then any settings can be. -/
theorem fold_assigned {current : List Text} (shown : Entries → Entries → Prop)
    (hadd : ∀ {inner entries : Entries} {key : Text}, shown inner entries →
      key ≠ Declaration.limitsKey → inner.get? key = none → ∀ value, ∃ next,
        Draft.add? ⟨entries, current⟩ (.assign [key] value) = some ⟨next, current⟩ ∧
          shown (inner ++ [(key, value)]) next)
    (h : shown (settings.valued done) entries) (hnodup : (done ++ names).Nodup) :
    ∃ last, (names.map (assigned settings)).foldlM Draft.add? ⟨entries, current⟩ =
        some ⟨last, current⟩ ∧ shown (settings.valued (done ++ names)) last := by
  let holds (done : List Setting) (draft : Draft) : Prop :=
    ∃ entries, draft = ⟨entries, current⟩ ∧ shown (settings.valued done) entries
  have hstep : ∀ {done name draft}, holds done draft → name ∉ done →
      ∃ next, Draft.add? draft (assigned settings name) = some next ∧
        holds (done ++ [name]) next := by
    rintro done name _ ⟨entries, rfl, hshown⟩ hnew
    obtain ⟨next, hnext, hshown⟩ :=
      hadd hshown name.key_ne_limits (valued_new hnew) (name.value settings)
    exact ⟨_, hnext, next, rfl, by rwa [valued_concat]⟩
  obtain ⟨_, hfold, last, rfl, hlast⟩ := fold_settings holds hstep ⟨entries, rfl, h⟩ hnodup
  exact ⟨last, hfold, hlast⟩

/-- Settings on lines of their own in the document itself. -/
theorem fold_outer (h : Shows entries (settings.valued done) limits)
    (hnodup : (done ++ names).Nodup) :
    ∃ last, (names.map (assigned settings)).foldlM Draft.add? ⟨entries, []⟩ = some ⟨last, []⟩ ∧
      Shows last (settings.valued (done ++ names)) limits :=
  fold_assigned settings (fun outer entries => Shows entries outer limits)
    (fun hshows hkey hnew value => hshows.add_outer hkey hnew value) h hnodup

/-- Settings under the header of the limits. -/
theorem fold_below_header (h : Shows entries outer (some (.header, settings.valued done)))
    (hnodup : (done ++ names).Nodup) :
    ∃ last, (names.map (assigned settings)).foldlM Draft.add?
        ⟨entries, [Declaration.limitsKey]⟩ = some ⟨last, [Declaration.limitsKey]⟩ ∧
      Shows last outer (some (.header, settings.valued (done ++ names))) :=
  fold_assigned settings (fun inner entries => Shows entries outer (some (.header, inner)))
    (fun hshows _ hnew value => hshows.add_below_header hnew value) h hnodup

/-- Settings on lines of their own, with the name of the table in front of each limit. -/
theorem fold_dotted (hnodup : names.Nodup) :
    ∃ last, (names.map (assignedDotted settings)).foldlM Draft.add? {} = some ⟨last, []⟩ ∧
      Shows last (settings.valued (outerNames names))
        (dottedLimits (settings.valued (limitNames names))) := by
  let holds (done : List Setting) (draft : Draft) : Prop :=
    ∃ entries, draft = ⟨entries, []⟩ ∧ Shows entries (settings.valued (outerNames done))
      (dottedLimits (settings.valued (limitNames done)))
  have hstep : ∀ {done name draft}, holds done draft → name ∉ done →
      ∃ next, Draft.add? draft (assignedDotted settings name) = some next ∧
        holds (done ++ [name]) next := by
    rintro done name _ ⟨entries, rfl, hshows⟩ hnew
    have houter : name ∉ outerNames done := fun hmem => hnew (mem_outer_names.1 hmem).1
    have hlimits : name ∉ limitNames done := fun hmem => hnew (mem_limit_names.1 hmem).1
    cases hlimit : name.isLimit with
    | false =>
        obtain ⟨next, hadd, hnext⟩ :=
          hshows.add_outer name.key_ne_limits (valued_new houter) (name.value settings)
        refine ⟨⟨next, []⟩, by simpa [assignedDotted, assigned, hlimit] using hadd, next, rfl, ?_⟩
        simpa [outerNames, limitNames, List.filter_append, hlimit, valued_concat] using hnext
    | true =>
        obtain ⟨next, hadd, hnext⟩ :=
          hshows.add_dotted (valued_new hlimits) (name.value settings)
        refine ⟨⟨next, []⟩, by simpa [assignedDotted, hlimit] using hadd, next, rfl, ?_⟩
        simpa [outerNames, limitNames, List.filter_append, hlimit, valued_concat] using hnext
  have hstart : holds [] {} := ⟨[], rfl, fun _ _ => rfl, rfl⟩
  obtain ⟨_, hfold, last, rfl, hlast⟩ := fold_settings holds hstep hstart (by simpa using hnodup)
  exact ⟨last, hfold, hlast⟩

theorem shows_nothing : Shows [] (settings.valued []) none where
  outer _ _ := rfl
  limits := rfl

/-- Limits under a header, behind all other settings. -/
theorem fold_header (hnodup : names.Nodup) :
    ∃ last, ((outerNames names).map (assigned settings) ++
        .header [Declaration.limitsKey] :: (limitNames names).map (assigned settings)).foldlM
          Draft.add? {} = some ⟨last, [Declaration.limitsKey]⟩ ∧
      Shows last (settings.valued (outerNames names))
        (some (.header, settings.valued (limitNames names))) := by
  have houter : ([] ++ outerNames names).Nodup := hnodup.filter _
  have hlimits : ([] ++ limitNames names).Nodup := hnodup.filter _
  obtain ⟨first, hfirst, hfirstShows⟩ := fold_outer settings (shows_nothing settings) houter
  obtain ⟨second, hsecond, hsecondShows⟩ := hfirstShows.add_header
  have hempty : Shows second _ (some (.header, settings.valued [])) := hsecondShows
  obtain ⟨last, hlast, hshows⟩ := fold_below_header settings hempty hlimits
  refine ⟨last, ?_, hshows⟩
  rw [List.foldlM_append]
  simp only [hfirst, Option.bind_eq_bind, Option.bind_some, List.foldlM_cons, hsecond, hlast]

/-- Limits in an inline table, somewhere among the other settings. -/
theorem fold_inline (hnodup : names.Nodup) {before after : List Setting}
    (hsplit : outerNames names = before ++ after) (inner : Entries) :
    ∃ last, (before.map (assigned settings) ++ .assign [Declaration.limitsKey]
        (.table .inline inner) :: after.map (assigned settings)).foldlM Draft.add? {} =
          some ⟨last, []⟩ ∧
      Shows last (settings.valued (outerNames names)) (some (.inline, inner)) := by
  have hall : (before ++ after).Nodup := hsplit ▸ hnodup.filter _
  have hbefore : ([] ++ before).Nodup := (List.nodup_append.1 hall).1
  obtain ⟨first, hfirst, hfirstShows⟩ := fold_outer settings (shows_nothing settings) hbefore
  obtain ⟨second, hsecond, hsecondShows⟩ := hfirstShows.add_inline inner
  obtain ⟨last, hlast, hshows⟩ := fold_outer settings hsecondShows hall
  rw [List.nil_append, ← hsplit] at hshows
  refine ⟨last, ?_, hshows⟩
  rw [List.foldlM_append]
  simp only [hfirst, Option.bind_eq_bind, Option.bind_some, List.foldlM_cons, hsecond, hlast]

end Folds

/-! ## What the entries declare -/

/-- What a file with some of the settings declares. -/
def Settings.declared (settings : Settings) (names : List Setting) : Declaration where
  timeZoneOffset := if .timeZoneOffset ∈ names then some settings.timeZoneOffset else none
  maxQueryLength := if .maxQueryLength ∈ names then some settings.limits.maxQueryLength else none
  maxTermLength := if .maxTermLength ∈ names then some settings.limits.maxTermLength else none
  requireTerms := if .requireTerms ∈ names then some settings.limits.requireTerms else none

namespace Declaration

theorem keys_within_iff {known : List Text} {entries : Entries} :
    keysWithin known entries = true ↔ ∀ key, (entries.get? key).isSome → key ∈ known := by
  simp only [Entries.has_key_iff, keysWithin, List.all_eq_true, List.contains_iff_mem,
    List.forall_mem_map]

/-- A setting is declared if it is among those that the entries have. -/
theorem optional_valued {α : Type} {read : Value → Option α} {settings : Settings}
    {names : List Setting} {entries : Entries} {name : Setting}
    (h : entries.get? name.key = if name ∈ names then some (name.value settings) else none)
    {a : α} (hread : read (name.value settings) = some a) :
    optional? read entries name.key = some (if name ∈ names then some a else none) := by
  rw [optional?, h]
  by_cases hmem : name ∈ names
  · simp [hmem, hread]
  · simp [hmem]

theorem length_of_nat {n : Nat} (h : n ≤ 18446744073709551615) : length? (.integer n) = some n := by
  have hholds : Text.Interval.unsigned64.holds n = true := by
    show (decide (0 ≤ (n : Int)) && decide ((n : Int) ≤ 18446744073709551615)) = true
    simp only [Bool.and_eq_true, decide_eq_true_eq]
    omega
  simp [length?, hholds]

theorem offset_of_int {n : Int} (h : -86399 ≤ n ∧ n ≤ 86399) : offset? (.integer n) = some n := by
  have hholds : Text.Interval.signed32.holds n = true := by
    show (decide (-2147483648 ≤ n) && decide (n ≤ 2147483647)) = true
    simp only [Bool.and_eq_true, decide_eq_true_eq]
    omega
  simp [offset?, hholds]

end Declaration

/-- The keys of settings are those of their names. -/
theorem Settings.key_of_valued {settings : Settings} {names : List Setting} {key : Text}
    (h : ((settings.valued names).get? key).isSome) : ∃ name ∈ names, name.key = key := by
  simpa [Settings.valued, Setting.valued] using Entries.has_key_iff.1 h

/-- A table of limits declares those that it shows. -/
theorem Settings.IsValid.limits_declared {settings : Settings} (hvalid : settings.IsValid)
    (names : List Setting) (offset : Option Int) (origin : Origin) :
    Declaration.withLimits? { timeZoneOffset := offset }
        (.table origin (settings.valued (limitNames names))) =
      some { settings.declared names with timeZoneOffset := offset } := by
  have hvalued : ∀ name : Setting, name.isLimit = true →
      (settings.valued (limitNames names)).get? name.key =
        if name ∈ names then some (name.value settings) else none := by
    intro name hlimit
    simp [settings.get_valued, hlimit]
  have hkeys : Declaration.keysWithin [LimitName.maxQueryLength.key,
      LimitName.maxTermLength.key, Declaration.requireTermsKey]
        (settings.valued (limitNames names)) = true := by
    rw [Declaration.keys_within_iff]
    intro key hkey
    obtain ⟨name, hname, rfl⟩ := Settings.key_of_valued hkey
    have hlimit := (mem_limit_names.1 hname).2
    revert hlimit
    cases name <;> decide
  have hquery : Declaration.optional? Declaration.length? _ LimitName.maxQueryLength.key = _ :=
    Declaration.optional_valued (hvalued .maxQueryLength rfl)
      (Declaration.length_of_nat hvalid.maxQueryLength.2)
  have hterm : Declaration.optional? Declaration.length? _ LimitName.maxTermLength.key = _ :=
    Declaration.optional_valued (hvalued .maxTermLength rfl)
      (Declaration.length_of_nat hvalid.maxTermLength.2)
  have hrequire : Declaration.optional? Declaration.boolean? _ Declaration.requireTermsKey = _ :=
    Declaration.optional_valued (hvalued .requireTerms rfl) rfl
  rw [Declaration.withLimits?, if_pos hkeys, hquery, hterm, hrequire]
  rfl

/-- Entries that show some settings declare them. -/
theorem Shows.declares {settings : Settings} (hvalid : settings.IsValid) {names : List Setting}
    {entries : Entries} {limits : Option (Origin × Entries)}
    (h : Shows entries (settings.valued (outerNames names)) limits)
    (hlimits : (limits.map Prod.snd).getD [] = settings.valued (limitNames names)) :
    Declaration.ofEntries? entries = some (settings.declared names) := by
  have hkeys : Declaration.keysWithin [Declaration.offsetKey, Declaration.limitsKey] entries =
      true := by
    rw [Declaration.keys_within_iff]
    intro key hkey
    by_cases hkey' : key = Declaration.limitsKey
    · simp [hkey']
    · rw [h.outer key hkey'] at hkey
      obtain ⟨name, hname, rfl⟩ := Settings.key_of_valued hkey
      have hlimit := (mem_outer_names.1 hname).2
      revert hlimit
      cases name <;> decide
  have houter : entries.get? Setting.timeZoneOffset.key =
      if .timeZoneOffset ∈ names then some (.integer settings.timeZoneOffset) else none := by
    rw [h.outer _ (Setting.key_ne_limits _), settings.get_valued]
    simp [Setting.isLimit, Setting.value]
  have hoffset : Declaration.optional? Declaration.offset? entries Declaration.offsetKey =
      some (if .timeZoneOffset ∈ names then some settings.timeZoneOffset else none) :=
    Declaration.optional_valued houter (Declaration.offset_of_int hvalid.timeZoneOffset)
  rw [Declaration.ofEntries?, if_pos hkeys, hoffset]
  cases limits with
  | none =>
      -- Without the table no limit is among the settings, so none is declared.
      have hnone : ∀ name : Setting, name.isLimit = true → name ∉ names := by
        intro name hlimit hmem
        have hfiltered : limitNames names = [] := by
          simpa [Settings.valued] using hlimits
        exact List.filter_eq_nil_iff.1 hfiltered name hmem hlimit
      have hquery := hnone .maxQueryLength rfl
      have hterm := hnone .maxTermLength rfl
      have hrequire := hnone .requireTerms rfl
      simp [h.limits, Settings.declared, hquery, hterm, hrequire]
  | some table =>
      obtain ⟨origin, inner⟩ := table
      obtain rfl : inner = settings.valued (limitNames names) := hlimits
      simp only [h.limits, Option.map_some, Option.bind_eq_bind, Option.bind_some]
      exact hvalid.limits_declared names _ origin

end ForumQuery
