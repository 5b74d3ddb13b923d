import ForumQuery.CommandLine.Run
import ForumQuery.Proofs.Calendar.Bounds
import ForumQuery.Proofs.Settings.Loading

/-!
# The outcome of parsing a query

A query that is to be parsed is checked step by step, and the first check that it does not pass
decides the outcome. `Checked` has one case for each check, and `checked_parse` says that parsing
follows it, whichever form the output has. `outcome_of_parse` gives the exit code and the output of
the whole program.
-/

namespace ForumQuery

/-- Something is there, but it cannot be read as text: it is a directory, its bytes are no text, or
the system refuses it. -/
def FileState.IsUnreadable (state : FileState) : Prop :=
  state ≠ .missing ∧ ∀ contents, state ≠ .text contents

/-- The settings file is there, but it cannot be read as text. -/
def Settings.Unreadable (environment : Environment) (requested : Option Text) : Prop :=
  ∃ path, location environment requested = .ok path ∧ (environment.files path).IsUnreadable

/-- The words of the terms of a record, those that are excluded too. -/
def SearchRecord.words (record : SearchRecord) : List Text :=
  Text.words record.terms.included ++ Text.words record.terms.excluded

namespace CommandLine

/-- An offset is settled if it is given, or else that of the settings, and belongs to a time zone. -/
theorem settled_offset_iff {given : Option Int} {settings : Settings} {offset : Int} :
    settledOffset given settings = .ok offset ↔
      given.getD settings.timeZoneOffset = offset ∧ -86399 ≤ offset ∧ offset ≤ 86399 := by
  rw [← Offset.is_valid_iff, settledOffset, Offset.check]
  split
  · next hvalid =>
      constructor
      · rintro ⟨rfl⟩
        exact ⟨rfl, hvalid⟩
      · rintro ⟨rfl, _⟩
        rfl
  · next hinvalid =>
      constructor
      · rintro ⟨⟩
      · rintro ⟨rfl, hvalid⟩
        exact absurd hvalid hinvalid

/-- `Checked settings query offset failure` says that the first check which the query does not pass
gives the failure, or that it passes all of them. -/
inductive Checked (settings : Settings) (query : Text) (offset : Int) : Option Failure → Prop where
  | queryTooLong :
      settings.limits.maxQueryLength < query.length →
      Checked settings query offset
        (some (.queryTooLong query.length settings.limits.maxQueryLength))
  | badOffset :
      query.length ≤ settings.limits.maxQueryLength → offset < -86399 ∨ 86399 < offset →
      Checked settings query offset (some (.offset (.invalidOffset offset)))
  | termTooLong (record term) :
      query.length ≤ settings.limits.maxQueryLength → -86399 ≤ offset ∧ offset ≤ 86399 →
      record ∈ Query.parse query offset → term ∈ record.words →
      settings.limits.maxTermLength < term.length →
      Checked settings query offset (some (.termTooLong term settings.limits.maxTermLength))
  | noSearch :
      query.length ≤ settings.limits.maxQueryLength → -86399 ≤ offset ∧ offset ≤ 86399 →
      Query.parse query offset = [] → settings.limits.requireTerms = true →
      Checked settings query offset (some .noSearch)
  | passed :
      query.length ≤ settings.limits.maxQueryLength → -86399 ≤ offset ∧ offset ≤ 86399 →
      (∀ record ∈ Query.parse query offset, ∀ term ∈ record.words,
        term.length ≤ settings.limits.maxTermLength) →
      (Query.parse query offset = [] → settings.limits.requireTerms = false) →
      Checked settings query offset none

/-- The output for records. -/
def printed (json : Bool) (records : List SearchRecord) : Text :=
  if json then document (.array (records.map SearchRecord.toJson)) else SearchRecord.listing records

/-- A failure of checks, or the output. -/
def settled (json : Bool) (records : List SearchRecord) : Option Failure → Except Failure Text
  | some failure => .error failure
  | none => .ok (printed json records)

/-- The first word of the records that is too long is complained of, if there is one. -/
theorem check_terms_cases (limits : Limits) (records : List SearchRecord) :
    (∃ record ∈ records, ∃ term ∈ record.words, limits.maxTermLength < term.length ∧
      checkTerms limits records = .error (.termTooLong term limits.maxTermLength)) ∨
    ((∀ record ∈ records, ∀ term ∈ record.words, term.length ≤ limits.maxTermLength) ∧
      checkTerms limits records = .ok ()) := by
  have hmem : ∀ term, term ∈ termWords records ↔ ∃ record ∈ records, term ∈ record.words :=
    fun term => List.mem_flatMap
  rw [checkTerms]
  split
  · next term hfind =>
      obtain ⟨record, hrecord, hterm⟩ := (hmem term).1 (List.mem_of_find?_eq_some hfind)
      have hlong := List.find?_some hfind
      exact Or.inl ⟨record, hrecord, term, hterm, of_decide_eq_true hlong, rfl⟩
  · next hfind =>
      refine Or.inr ⟨fun record hrecord term hterm => ?_, rfl⟩
      have hshort := List.find?_eq_none.1 hfind term ((hmem term).2 ⟨record, hrecord, hterm⟩)
      simpa using hshort

/-- Parsing ends with the first check that the query does not pass, or with its records. The form of
the output has no part in the checks. -/
theorem checked_parse (settings : Settings) (query : Text) (given : Option Int) :
    let offset := given.getD settings.timeZoneOffset
    ∃ failure, Checked settings query offset failure ∧ ∀ json,
      (parse settings json query given).result =
        settled json (Query.parse query offset) failure := by
  intro offset
  rcases Nat.lt_or_ge settings.limits.maxQueryLength query.length with hlong | hlength
  · refine ⟨_, .queryTooLong hlong, fun json => ?_⟩
    rw [parse, checkLength, if_neg (Nat.not_le.2 hlong)]
    rfl
  by_cases hinvalid : offset < -86399 ∨ 86399 < offset
  · refine ⟨_, .badOffset hlength hinvalid, fun json => ?_⟩
    have hcheck : ¬ Offset.isValid offset = true := by
      rw [Offset.is_valid_iff]
      omega
    rw [parse, checkLength, if_pos hlength, requiredOffset, settledOffset, Offset.check,
      if_neg hcheck]
    rfl
  have hoffset : -86399 ≤ offset ∧ offset ≤ 86399 := by omega
  -- What is left are the checks of the records.
  have hparse : ∀ json, (parse settings json query given).result = (do
      checkTerms settings.limits (Query.parse query offset)
      checkPresence settings.limits (Query.parse query offset)
      return printed json (Query.parse query offset)) := by
    intro json
    rw [parse, checkLength, if_pos hlength, requiredOffset, settledOffset, Offset.check,
      if_pos (Offset.is_valid_iff.2 hoffset)]
    rfl
  rcases check_terms_cases settings.limits (Query.parse query offset) with
    ⟨record, hrecord, term, hterm, hlong, herror⟩ | ⟨hshort, hterms⟩
  · refine ⟨_, .termTooLong record term hlength hoffset hrecord hterm hlong, fun json => ?_⟩
    rw [hparse, herror]
    rfl
  by_cases hnone : Query.parse query offset = [] ∧ settings.limits.requireTerms = true
  · refine ⟨_, .noSearch hlength hoffset hnone.1 hnone.2, fun json => ?_⟩
    rw [hparse, hterms, checkPresence, hnone.1, hnone.2]
    rfl
  · have hpresence : checkPresence settings.limits (Query.parse query offset) = .ok () := by
      rw [checkPresence, if_neg]
      simpa [and_comm] using hnone
    refine ⟨_, .passed hlength hoffset hshort (fun h => ?_), fun json => ?_⟩
    · simpa [h] using hnone
    · rw [hparse, hterms, hpresence]
      rfl

/-- What is told while a query is parsed does not depend on the form of the output. -/
theorem parse_events (settings : Settings) (json other : Bool) (query : Text)
    (given : Option Int) :
    (parse settings json query given).events = (parse settings other query given).events := by
  simp only [parse]
  split <;> rfl

/-- No failure has the exit code of a success. -/
theorem Failure.code_ne_zero (failure : Failure) : failure.code ≠ 0 := by
  unfold Failure.code
  split <;> decide

/-- A complaint about a declared setting is one about input. -/
theorem settings_code {declared : Declaration} {error : SettingsError}
    (h : declared.settings = .error error) : (Failure.settings error).code = 3 := by
  obtain ⟨_, rfl⟩ | ⟨_, rfl⟩ := Declaration.complaint_of_settings h
  · rfl
  · rfl

/-- What is there tells whether a located file can be read. -/
theorem unreadable_iff {environment : Environment} {requested : Option Text} {path : Text}
    (hlocation : Settings.location environment requested = .ok path) :
    Settings.Unreadable environment requested ↔ (environment.files path).IsUnreadable := by
  constructor
  · rintro ⟨other, hother, hstate⟩
    rw [hlocation] at hother
    cases hother
    exact hstate
  · exact fun hstate => ⟨path, hlocation, hstate⟩

/-- A file that gives no settings is a failure of the machine if it cannot be read as text, and of
input otherwise. -/
theorem file_error_code {path : Text} {state : FileState} {error : SettingsError}
    (h : Settings.FileGives path state (.error error)) :
    (state.IsUnreadable ∧ (Failure.settings error).code = 1) ∨
      (¬ state.IsUnreadable ∧ (Failure.settings error).code = 3) := by
  generalize hresult : Except.error error = result at h
  cases h with
  | directory | notText | refused =>
      cases hresult
      exact Or.inl ⟨⟨nofun, nofun⟩, rfl⟩
  | malformed contents hread =>
      cases hresult
      exact Or.inr ⟨fun h => h.2 contents rfl, rfl⟩
  | declares contents declared hread =>
      exact Or.inr ⟨fun h => h.2 contents rfl, settings_code hresult.symm⟩

/-- Settings that cannot be loaded are a failure of the machine if their file is there and cannot be
read as text, and of input otherwise. -/
theorem load_error_code {environment : Environment} {requested : Option Text}
    {error : SettingsError} (h : Settings.load environment requested = .error error) :
    (Settings.Unreadable environment requested ∧ (Failure.settings error).code = 1) ∨
      (¬ Settings.Unreadable environment requested ∧ (Failure.settings error).code = 3) := by
  cases requested with
  | none =>
      cases Settings.load_usual_iff.1 h with
      | found path _ hplace hgives =>
          rw [unreadable_iff hplace.location]
          exact file_error_code hgives
  | some path =>
      cases Settings.load_named_iff.1 h with
      | empty hpath =>
          refine Or.inr ⟨?_, rfl⟩
          rintro ⟨other, hother, _⟩
          rw [Settings.location_named, if_pos hpath] at hother
          cases hother
      | missing hpath hmissing =>
          rw [unreadable_iff (Settings.location_of_ne_nil environment hpath), hmissing]
          exact Or.inr ⟨fun h => h.1 rfl, rfl⟩
      | found _ hpath hgives =>
          rw [unreadable_iff (Settings.location_of_ne_nil environment hpath)]
          exact file_error_code hgives

/-- A file that cannot be read as text gives no settings. -/
theorem load_unreadable {environment : Environment} {requested : Option Text}
    (h : Settings.Unreadable environment requested) :
    ∃ error, Settings.load environment requested = .error error := by
  obtain ⟨path, hlocation, hthere, hnotText⟩ := h
  rw [Settings.load_found hlocation]
  cases hstate : environment.files path with
  | missing => exact absurd hstate hthere
  | text contents => exact absurd hstate (hnotText contents)
  | _ => exact ⟨_, rfl⟩

variable {host : Host} {invocation : Invocation} {settings : Settings}

/-- A command that fails has the exit code of the failure, and no output. -/
theorem invoke_error {failure : Failure} (h : (report host invocation).result = .error failure) :
    (invoke host invocation).code = failure.code ∧ (invoke host invocation).output = [] := by
  simp only [invoke, h, and_self]

/-- A command that does not fail has the exit code zero. -/
theorem invoke_ok {output : Text} (h : (report host invocation).result = .ok output) :
    (invoke host invocation).code = 0 ∧ (invoke host invocation).output = output := by
  simp only [invoke, h, and_self]

/-- There is no output of a command whose exit code is not zero. -/
theorem invoke_output (h : (invoke host invocation).code ≠ 0) :
    (invoke host invocation).output = [] := by
  cases hresult : (report host invocation).result with
  | error failure => exact (invoke_error hresult).2
  | ok output => exact absurd (invoke_ok hresult).1 h

/-- With settings that are loaded a query is parsed. -/
theorem report_parse {query : Text} {given : Option Int}
    (hcommand : invocation.command = .parse query given)
    (hload : Settings.load host.environment invocation.settingsPath = .ok settings) :
    (report host invocation).result = (parse settings invocation.json query given).result := by
  rw [report, hload]
  simp only [perform, hcommand]

/-- Two reports that tell the same and fail alike. -/
structure Report.Alike (left right : Report) : Prop where
  events : left.events = right.events
  result : (∃ failure, left.result = .error failure ∧ right.result = .error failure) ∨
    ∃ output other, left.result = .ok output ∧ right.result = .ok other

/-- The form of the output has no part in what parsing tells and in how it fails. -/
theorem parse_alike (settings : Settings) (json other : Bool) (query : Text)
    (given : Option Int) :
    (parse settings json query given).Alike (parse settings other query given) := by
  refine ⟨parse_events .., ?_⟩
  obtain ⟨failure, _, hresult⟩ := checked_parse settings query given
  cases failure with
  | some failure => exact Or.inl ⟨failure, hresult json, hresult other⟩
  | none => exact Or.inr ⟨_, _, hresult json, hresult other⟩

/-- The form of the output changes neither the exit code nor what goes to the error stream. -/
theorem invoke_json {query : Text} {given : Option Int}
    (hcommand : invocation.command = .parse query given) (json : Bool) :
    (invoke host { invocation with json := json }).code = (invoke host invocation).code ∧
      (invoke host { invocation with json := json }).errors = (invoke host invocation).errors := by
  have halike : (report host { invocation with json := json }).Alike (report host invocation) := by
    cases hload : Settings.load host.environment invocation.settingsPath with
    | error error =>
        simp only [report, hload]
        exact ⟨rfl, Or.inl ⟨_, rfl, rfl⟩⟩
    | ok settings =>
        obtain ⟨hevents, hresult⟩ := parse_alike settings json invocation.json query given
        simp only [report, hload, perform, hcommand]
        exact ⟨congrArg (_ ++ ·) hevents, hresult⟩
  obtain ⟨hevents, hresult⟩ := halike
  rcases hresult with ⟨failure, hleft, hright⟩ | ⟨output, other, hleft, hright⟩
  · simp only [invoke, hevents, hleft, hright, and_self]
  · simp only [invoke, hevents, hleft, hright, and_self]

/-- The exit code of the first check that a query does not pass, and zero if it passes all. -/
theorem Checked.code {query : Text} {offset : Int} {failure : Option Failure}
    (h : Checked settings query offset failure) :
    (failure.elim 0 Failure.code) =
      if settings.limits.maxQueryLength < query.length then 3
      else if offset < -86399 ∨ 86399 < offset then 3
      else if ∃ record ∈ Query.parse query offset, ∃ term ∈ record.words,
        settings.limits.maxTermLength < term.length then 3
      else if Query.parse query offset = [] ∧ settings.limits.requireTerms = true then 2
      else 0 := by
  cases h with
  | queryTooLong hlong => rw [if_pos hlong]; rfl
  | badOffset hlength hinvalid => rw [if_neg (Nat.not_lt.2 hlength), if_pos hinvalid]; rfl
  | termTooLong record term hlength hoffset hrecord hterm hlong =>
      rw [if_neg (Nat.not_lt.2 hlength), if_neg (by omega),
        if_pos ⟨record, hrecord, term, hterm, hlong⟩]
      rfl
  | noSearch hlength hoffset hnone hrequire =>
      rw [if_neg (Nat.not_lt.2 hlength), if_neg (by omega), if_neg (by simp [hnone]),
        if_pos ⟨hnone, hrequire⟩]
      rfl
  | passed hlength hoffset hshort hpresent =>
      have hterms : ¬ ∃ record ∈ Query.parse query offset, ∃ term ∈ record.words,
          settings.limits.maxTermLength < term.length := by
        rintro ⟨record, hrecord, term, hterm, hlong⟩
        exact Nat.not_lt.2 (hshort record hrecord term hterm) hlong
      rw [if_neg (Nat.not_lt.2 hlength), if_neg (by omega), if_neg hterms, if_neg]
      · rfl
      · rintro ⟨hnone, hrequire⟩
        rw [hpresent hnone] at hrequire
        cases hrequire

/-- The first of these decides the exit code of a query that is to be parsed: the settings are in a
file that cannot be read as text; they cannot be loaded; the query is too long; the offset belongs
to no time zone; a word of the records is too long; there is no record, and one is required. There is
output only if none of them applies, and then it shows the records, all of whose words keep to the
limit. Whether it is JSON changes neither the exit code nor what goes to the error stream. -/
theorem outcome_of_parse (host : Host) {arguments : List Text} {invocation : Invocation}
    {query : Text} {given : Option Int}
    (hread : Request.read? arguments = some (.invoke invocation))
    (hcommand : invocation.command = .parse query given) :
    let requested := invocation.settingsPath
    ∃ outcome, run host arguments = some outcome ∧
      (Settings.Unreadable host.environment requested → outcome.code = 1) ∧
      (¬ Settings.Unreadable host.environment requested →
        ∀ error, Settings.load host.environment requested = .error error → outcome.code = 3) ∧
      (∀ settings, Settings.load host.environment requested = .ok settings →
        let limits := settings.limits
        let offset := given.getD settings.timeZoneOffset
        let records := Query.parse query offset
        outcome.code =
          (if limits.maxQueryLength < query.length then 3
          else if offset < -86399 ∨ 86399 < offset then 3
          else if ∃ record ∈ records, ∃ term ∈ record.words,
            limits.maxTermLength < term.length then 3
          else if records = [] ∧ limits.requireTerms = true then 2
          else 0) ∧
        (outcome.code = 0 →
          outcome.output = printed invocation.json records ∧
          query.length ≤ limits.maxQueryLength ∧
          ∀ record ∈ records, ∀ term ∈ record.words, term.length ≤ limits.maxTermLength)) ∧
      (outcome.code ≠ 0 → outcome.output = []) ∧
      ∀ others json, Request.read? others = some (.invoke { invocation with json := json }) →
        ∃ other, run host others = some other ∧ other.code = outcome.code ∧
          other.errors = outcome.errors := by
  intro requested
  refine ⟨invoke host invocation, ?_, ?_, ?_, ?_, invoke_output, ?_⟩
  · rw [run, hread, Option.map_some]
  · intro hunreadable
    obtain ⟨error, hload⟩ := load_unreadable hunreadable
    have hresult : (report host invocation).result = .error (.settings error) := by
      rw [report, hload]
    rw [(invoke_error hresult).1]
    rcases load_error_code hload with ⟨_, hcode⟩ | ⟨hreadable, _⟩
    · exact hcode
    · exact absurd hunreadable hreadable
  · intro hreadable error hload
    have hresult : (report host invocation).result = .error (.settings error) := by
      rw [report, hload]
    rw [(invoke_error hresult).1]
    rcases load_error_code hload with ⟨hunreadable, _⟩ | ⟨_, hcode⟩
    · exact absurd hunreadable hreadable
    · exact hcode
  · intro settings hload limits offset records
    obtain ⟨failure, hchecked, hparse⟩ := checked_parse settings query given
    have hresult := (report_parse hcommand hload).trans (hparse invocation.json)
    have hcode := hchecked.code
    cases hchecked with
    | passed hlength hoffset hshort hpresent =>
        obtain ⟨hzero, houtput⟩ := invoke_ok hresult
        exact ⟨hzero.trans hcode, fun _ => ⟨houtput, hlength, hshort⟩⟩
    | _ =>
        obtain ⟨hfailure, _⟩ := invoke_error hresult
        exact ⟨hfailure.trans hcode,
          fun hzero => absurd (hfailure.symm.trans hzero) (Failure.code_ne_zero _)⟩
  · intro others json hothers
    refine ⟨invoke host { invocation with json := json }, ?_, invoke_json hcommand json⟩
    rw [run, hothers, Option.map_some]

/-- A phrase has words of its own, and one of them is too long by its quote. Printed as JSON or not,
the search is refused. -/
theorem outcome_of_parse_phrase :
    let contents := "[limits]\nmax_term_length = 5\n".toList
    let host : Host := { environment := {
      files := fun path => if path = ['s'] then .text contents else .missing } }
    let settings : Settings := { limits := { maxTermLength := 5 } }
    let query := "#rust -\"tokio io\"".toList
    let invocation : Invocation := { settingsPath := some ['s'], command := .parse query none }
    let arguments := ["--config=s".toList, "parse".toList, query]
    let others := arguments ++ ["--json".toList]
    Request.read? arguments = some (.invoke invocation) ∧
      Request.read? others = some (.invoke { invocation with json := true }) ∧
      Settings.load host.environment (some ['s']) = .ok settings ∧
      (∃ record ∈ Query.parse query 0, "\"tokio".toList ∈ record.words) ∧
      ∃ outcome, run host arguments = some outcome ∧ outcome.code = 3 ∧ outcome.output = [] ∧
        ∃ other, run host others = some other ∧ other.code = 3 ∧
          other.errors = outcome.errors := by
  intro contents host settings query invocation arguments others
  have hread : Request.read? arguments = some (.invoke invocation) := by decide +kernel
  have hothers : Request.read? others = some (.invoke { invocation with json := true }) := by
    decide +kernel
  have hdeclared : Declaration.read? contents = some { maxTermLength := some 5 } := by
    decide +kernel
  have hload : Settings.load host.environment (some ['s']) = .ok settings := by
    have hfile : host.environment.files ['s'] = .text contents := rfl
    rw [Settings.load_text (by decide) hfile, Settings.ofText, hdeclared]
    rfl
  have hlong : ∃ record ∈ Query.parse query 0, "\"tokio".toList ∈ record.words := by
    decide +kernel
  obtain ⟨outcome, hrun, _, _, hloaded, houtput, hjson⟩ := outcome_of_parse host hread rfl
  obtain ⟨other, hother, hsame, herrors⟩ := hjson others true hothers
  have hcode : outcome.code = 3 := by
    rw [(hloaded settings hload).1]
    decide +kernel
  exact ⟨hread, hothers, hload, hlong, outcome, hrun, hcode, houtput (by omega), other, hother,
    hsame.trans hcode, herrors⟩

end CommandLine

end ForumQuery
