import ForumQuery.Proofs.Settings.Merging
import ForumQuery.Settings.Source

/-!
# Loading the settings

Where the settings come from decides what may go wrong. `load_found` says what the settings are once
their file is located, and `load_nowhere` what happens if it is not.

A file that is named and the file at the usual place are told apart by `NamedGives` and `UsualGives`,
which list what may come of each. `settings_from_one_file` says that loading follows them, and that
it looks at no other file. Whatever is loaded is valid (`valid_of_load`).
-/

namespace ForumQuery.Settings

variable {environment : Environment} {requested : Option Text} {path : Text}

/-- Only the empty path is no place for a file that is named. -/
theorem location_named (environment : Environment) (path : Text) :
    location environment (some path) = if path = [] then .error (.invalidPath []) else .ok path := by
  cases path <;> rfl

/-- Without a place for the file the defaults hold, unless the file was named. -/
theorem load_nowhere {error : SettingsError} (h : location environment requested = .error error) :
    load environment requested = if requested.isSome then .error error else .ok {} := by
  rw [load, h]

/-- What a file in its place gives. Only a file that was named must be there. -/
theorem load_found (h : location environment requested = .ok path) :
    load environment requested =
      match environment.files path with
      | .missing => if requested.isSome then .error (.missingFile path) else .ok {}
      | .directory => .error (.unreadable path .isDirectory)
      | .notText => .error (.unreadable path .notText)
      | .refused reason => .error (.unreadable path (.refused reason))
      | .text contents => ofText path contents := by
  rw [load, h]
  simp only [ofFile]
  cases environment.files path with
  | missing => rfl
  | directory => rfl
  | notText => rfl
  | refused => rfl
  | text contents =>
      show (ofText path contents).map some >>= _ = ofText path contents
      cases ofText path contents <;> rfl

/-- The text of a file that is named gives the settings. -/
theorem load_text {contents : Text} (hpath : path ≠ [])
    (hfile : environment.files path = .text contents) :
    load environment (some path) = ofText path contents := by
  have hlocation : location environment (some path) = .ok path := by
    rw [location_named, if_neg hpath]
  rw [load_found hlocation, hfile]

/-- The usual place of the settings file: below the configuration directory if one is set, and
otherwise below the home directory. -/
inductive UsualPlace (environment : Environment) : Text → Prop where
  | configHome (directory) :
      environment.configHome = some directory → directory ≠ [] →
      UsualPlace environment ((directory.child "sift".toList).child "config.toml".toList)
  | home (directory) :
      environment.configHome = none → environment.home = some directory →
      UsualPlace environment
        (((directory.child ".config".toList).child "sift".toList).child "config.toml".toList)

/-- What comes of a path that leads somewhere: only a file that is text and declares settings gives
any. -/
inductive FileGives (path : Text) : FileState → Except SettingsError Settings → Prop where
  | directory : FileGives path .directory (.error (.unreadable path .isDirectory))
  | notText : FileGives path .notText (.error (.unreadable path .notText))
  | refused (reason) : FileGives path (.refused reason) (.error (.unreadable path (.refused reason)))
  | malformed (contents) :
      Declaration.read? contents = none →
      FileGives path (.text contents) (.error (.malformed path))
  | declares (contents declared) :
      Declaration.read? contents = some declared →
      FileGives path (.text contents) declared.settings

/-- What comes of naming a path, given what it leads to: nothing takes the place of a file that is
named. -/
inductive NamedGives (path : Text) (state : FileState) : Except SettingsError Settings → Prop where
  | empty : path = [] → NamedGives path state (.error (.invalidPath []))
  | missing : path ≠ [] → state = .missing → NamedGives path state (.error (.missingFile path))
  | found (result) : path ≠ [] → FileGives path state result → NamedGives path state result

/-- What comes of naming no path: the defaults hold if there is no usual place, or no file there. -/
inductive UsualGives (environment : Environment) : Except SettingsError Settings → Prop where
  | emptyConfigHome : environment.configHome = some [] → UsualGives environment (.ok {})
  | unknownHome :
      environment.configHome = none → environment.home = none → UsualGives environment (.ok {})
  | missing (path : Text) :
      UsualPlace environment path → environment.files path = .missing →
      UsualGives environment (.ok {})
  | found (path : Text) (result) :
      UsualPlace environment path → FileGives path (environment.files path) result →
      UsualGives environment result

variable {result : Except SettingsError Settings}

/-- A path that leads somewhere gives something. -/
theorem exists_file_gives (path : Text) {state : FileState} (h : state ≠ .missing) :
    ∃ result, FileGives path state result := by
  cases state with
  | missing => exact absurd rfl h
  | directory => exact ⟨_, .directory⟩
  | notText => exact ⟨_, .notText⟩
  | refused reason => exact ⟨_, .refused reason⟩
  | text contents =>
      cases hread : Declaration.read? contents with
      | none => exact ⟨_, .malformed contents hread⟩
      | some declared => exact ⟨_, .declares contents declared hread⟩

/-- What the located file gives is loaded, whether it was named or not. -/
theorem FileGives.load (h : FileGives path (environment.files path) result)
    (hlocation : location environment requested = .ok path) :
    load environment requested = result := by
  rw [load_found hlocation]
  generalize environment.files path = state at h
  cases h with
  | directory => rfl
  | notText => rfl
  | refused => rfl
  | malformed contents hread => simp only [ofText, hread]
  | declares contents declared hread => simp only [ofText, hread]

/-- A file that is named is looked for where it is named. -/
theorem location_of_ne_nil (environment : Environment) (h : path ≠ []) :
    location environment (some path) = .ok path := by
  rw [location_named, if_neg h]

/-- A file that is not named is looked for at the usual place. -/
theorem UsualPlace.location (h : UsualPlace environment path) :
    location environment none = .ok path := by
  cases h with
  | configHome directory hdirectory hne =>
      cases directory with
      | nil => exact absurd rfl hne
      | cons c rest => simp only [Settings.location, hdirectory, fileIn]
  | home directory hnone hdirectory => simp only [Settings.location, hnone, hdirectory, fileIn]

/-- A usual place has a path. -/
theorem UsualPlace.ne_nil (h : UsualPlace environment path) : path ≠ [] := by
  have hchild : ∀ directory name : Text, name ≠ [] → directory.child name ≠ [] := by
    intro directory name hname
    unfold Text.child
    split <;> simp [hname]
  cases h with
  | configHome directory => exact hchild _ _ (by decide)
  | home directory => exact hchild _ _ (by decide)

/-- What comes of naming a path is loaded. -/
theorem NamedGives.load (h : NamedGives path (environment.files path) result) :
    load environment (some path) = result := by
  cases h with
  | empty hpath =>
      have hlocation : location environment (some path) = .error (.invalidPath []) := by
        rw [location_named, if_pos hpath]
      rw [load_nowhere hlocation]
      rfl
  | missing hpath hmissing =>
      rw [load_found (location_of_ne_nil environment hpath), hmissing]
      rfl
  | found result hpath hgives => exact hgives.load (location_of_ne_nil environment hpath)

/-- What comes of naming no path is loaded. -/
theorem UsualGives.load (h : UsualGives environment result) :
    load environment none = result := by
  have hnowhere : ∀ error, location environment none = .error error →
      Settings.load environment none = .ok {} := by
    intro error herror
    rw [load_nowhere herror]
    rfl
  cases h with
  | emptyConfigHome hempty => exact hnowhere (.invalidPath []) (by simp only [location, hempty])
  | unknownHome hnone hhome => exact hnowhere .missingHome (by simp only [location, hnone, hhome])
  | missing path hplace hmissing =>
      rw [load_found hplace.location, hmissing]
      rfl
  | found path result hplace hgives => exact hgives.load hplace.location

/-- A named path is loaded as the case says that it falls under. -/
theorem load_named_iff :
    load environment (some path) = result ↔ NamedGives path (environment.files path) result := by
  refine ⟨fun h => ?_, NamedGives.load⟩
  have hexists : ∃ other, NamedGives path (environment.files path) other := by
    by_cases hpath : path = []
    · exact ⟨_, .empty hpath⟩
    by_cases hmissing : environment.files path = .missing
    · exact ⟨_, .missing hpath hmissing⟩
    · obtain ⟨other, hother⟩ := exists_file_gives path hmissing
      exact ⟨other, .found other hpath hother⟩
  obtain ⟨other, hother⟩ := hexists
  rwa [← h, hother.load]

/-- There is a usual place unless the configuration directory is set to nothing, or is not set and the
home directory is not known. -/
theorem usual_place_cases (environment : Environment) :
    environment.configHome = some [] ∨
      (environment.configHome = none ∧ environment.home = none) ∨
      ∃ path, UsualPlace environment path := by
  cases hconfig : environment.configHome with
  | some directory =>
      by_cases hempty : directory = []
      · exact Or.inl (congrArg some hempty)
      · exact Or.inr (Or.inr ⟨_, .configHome directory hconfig hempty⟩)
  | none =>
      cases hhome : environment.home with
      | none => exact Or.inr (Or.inl ⟨rfl, rfl⟩)
      | some directory => exact Or.inr (Or.inr ⟨_, .home directory hconfig hhome⟩)

/-- Without a named path the case says what is loaded. -/
theorem load_usual_iff : load environment none = result ↔ UsualGives environment result := by
  refine ⟨fun h => ?_, UsualGives.load⟩
  have hexists : ∃ other, UsualGives environment other := by
    obtain hempty | ⟨hnone, hhome⟩ | ⟨path, hplace⟩ := usual_place_cases environment
    · exact ⟨_, .emptyConfigHome hempty⟩
    · exact ⟨_, .unknownHome hnone hhome⟩
    by_cases hmissing : environment.files path = .missing
    · exact ⟨_, .missing path hplace hmissing⟩
    · obtain ⟨other, hother⟩ := exists_file_gives path hmissing
      exact ⟨other, .found path other hplace hother⟩
  obtain ⟨other, hother⟩ := hexists
  rwa [← h, hother.load]

/-- Settings that a file gives are valid. -/
theorem FileGives.valid {state : FileState} (h : FileGives path state result) {settings : Settings}
    (hresult : result = .ok settings) : settings.IsValid := by
  cases h with
  | declares contents declared hread => exact Declaration.valid_of_read hread hresult
  | _ => cases hresult

/-- Settings that are loaded are valid, wherever they come from. -/
theorem valid_of_load {settings : Settings} (h : load environment requested = .ok settings) :
    settings.IsValid := by
  have hdefault : ({} : Settings).IsValid := ⟨by decide, by decide, by decide⟩
  cases requested with
  | none =>
      generalize hresult : Except.ok settings = result at h
      cases load_usual_iff.1 h with
      | found path _ _ hgives => exact hgives.valid hresult.symm
      | _ =>
          cases hresult
          exact hdefault
  | some path =>
      cases load_named_iff.1 h with
      | found _ _ hgives => exact hgives.valid rfl

/-- What a file gives is no complaint about its path. -/
theorem FileGives.complaint {state : FileState} {error : SettingsError}
    (h : FileGives path state (.error error)) (other : Text) :
    error ≠ .invalidPath other ∧ error ≠ .missingFile other := by
  generalize hresult : Except.error error = result at h
  cases h with
  | declares contents declared hread =>
      obtain ⟨_, rfl⟩ | ⟨_, rfl⟩ := Declaration.complaint_of_settings hresult.symm
      · exact ⟨nofun, nofun⟩
      · exact ⟨nofun, nofun⟩
  | _ =>
      cases hresult
      exact ⟨nofun, nofun⟩

/-- A file that is not named is no reason to complain of its path. -/
theorem usual_complaint {error : SettingsError} (h : load environment none = .error error)
    (other : Text) : error ≠ .invalidPath other ∧ error ≠ .missingFile other := by
  cases load_usual_iff.1 h with
  | found path _ _ hgives => exact hgives.complaint other

/-- A named path gives what the file there gives, and a complaint if it is empty or there is no such
file; neither another file nor the surroundings have a part in it. Without a named path the usual file
gives the same as if it were named; if there is no such file, or no place for it, the defaults hold,
and no complaint is about a path. -/
theorem settings_from_one_file :
    (∀ environment path result, load environment (some path) = result ↔
      NamedGives path (environment.files path) result) ∧
    (∀ environment result, load environment none = result ↔ UsualGives environment result) ∧
    (∀ (environment other : Environment) (path : Text),
      environment.files path = other.files path →
        load environment (some path) = load other (some path)) ∧
    (∀ environment other path, UsualPlace environment path → UsualPlace other path →
      environment.files path = other.files path → load environment none = load other none) ∧
    (∀ environment path, UsualPlace environment path → environment.files path ≠ .missing →
      load environment none = load environment (some path)) ∧
    ∀ environment error, load environment none = .error error →
      ∀ path, error ≠ .invalidPath path ∧ error ≠ .missingFile path := by
  refine ⟨fun _ _ _ => load_named_iff, fun _ _ => load_usual_iff, ?_, ?_, ?_,
    fun _ _ => usual_complaint⟩
  · intro environment other path hsame
    rw [load_named_iff, hsame, ← load_named_iff]
  · intro environment other path hplace hother hsame
    rw [load_found hplace.location, load_found hother.location, hsame]
  · intro environment path hplace hfile
    rw [load_found hplace.location, load_found (location_of_ne_nil environment hplace.ne_nil)]
    cases hstate : environment.files path with
    | missing => exact absurd hstate hfile
    | _ => rfl

/-- The file below the configuration directory is loaded as if it were named, whatever the home
directory is and whatever else there is. A directory in its place is complained of. -/
theorem settings_from_one_file_usual :
    let path := "xdg/sift/config.toml".toList
    let contents := "time_zone_offset = 3600\n".toList
    let environment : Environment :=
      { configHome := some "xdg".toList, home := some "home".toList
        files := fun other => if other = path then .text contents else .missing }
    let homeless : Environment :=
      { configHome := some "xdg".toList
        files := fun other => if other = path then .text contents else .directory }
    let crowded : Environment :=
      { configHome := some "xdg".toList, files := fun _ => .directory }
    UsualPlace environment path ∧ UsualPlace homeless path ∧
      environment.files path ≠ .missing ∧ environment.files path = homeless.files path ∧
      load environment none = .ok { timeZoneOffset := 3600 } ∧
      load environment none = load homeless none ∧
      load environment none = load environment (some path) ∧
      load environment (some path) = load homeless (some path) ∧
      load crowded none = .error (.unreadable path .isDirectory) ∧
      SettingsError.unreadable path .isDirectory ≠ .missingFile path := by
  intro path contents environment homeless crowded
  have hplace : UsualPlace environment path := .configHome "xdg".toList rfl (by decide)
  have hhomeless : UsualPlace homeless path := .configHome "xdg".toList rfl (by decide)
  have hfile : environment.files path = .text contents := rfl
  have hsame : environment.files path = homeless.files path := rfl
  have hthere : environment.files path ≠ .missing := nofun
  have hdeclared : Declaration.read? contents = some { timeZoneOffset := some 3600 } := by
    decide +kernel
  have hgives : FileGives path (environment.files path)
      (Declaration.settings { timeZoneOffset := some 3600 }) :=
    .declares contents _ hdeclared
  have hcrowded : load crowded none = .error (.unreadable path .isDirectory) := rfl
  obtain ⟨_, husual, hlocal, hplaced, hnamed, hcomplaint⟩ := settings_from_one_file
  exact ⟨hplace, hhomeless, hthere, hsame, (husual _ _).2 (.found path _ hplace hgives),
    hplaced _ _ path hplace hhomeless hsame, hnamed _ path hplace hthere,
    hlocal _ _ path hsame, hcrowded, (hcomplaint _ _ hcrowded path).2⟩

end ForumQuery.Settings
