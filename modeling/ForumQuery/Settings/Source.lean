import ForumQuery.Files
import ForumQuery.Settings.Declaration

/-!
# Where the settings come from

The settings are read from one file: the one that the user names, or else a file of a fixed name
below the user's configuration directory. A file that the user names must exist; the other one need
not, and then the defaults hold.
-/

namespace ForumQuery

/-- What the program sees of its surroundings. -/
structure Environment where
  /-- The configuration directory, if one is set. -/
  configHome : Option Text := none
  /-- The user's home directory, if it is known. -/
  home : Option Text := none
  files : Files := fun _ => .missing

/-- A path with one more name at its end. -/
def Text.child (path name : Text) : Text :=
  if path = [] ∨ path.getLast? = some '/' then path ++ name else path ++ '/' :: name

namespace Settings

/-- The settings file below a configuration directory. -/
def fileIn (directory : Text) : Text :=
  (directory.child "sift".toList).child "config.toml".toList

/-- The path of the settings file. -/
def location (environment : Environment) : Option Text → Except SettingsError Text
  | some [] => .error (.invalidPath [])
  | some path => .ok path
  | none =>
      match environment.configHome with
      | some [] => .error (.invalidPath [])
      | some directory => .ok (fileIn directory)
      | none =>
          match environment.home with
          | none => .error .missingHome
          | some home => .ok (fileIn (home.child ".config".toList))

/-- The settings that the text of a file gives. -/
def ofText (path contents : Text) : Except SettingsError Settings :=
  match Declaration.read? contents with
  | none => .error (.malformed path)
  | some declared => declared.settings

/-- The settings that a file gives, or `none` if there is no such file. -/
def ofFile (files : Files) (path : Text) : Except SettingsError (Option Settings) :=
  match files path with
  | .missing => .ok none
  | .directory => .error (.unreadable path .isDirectory)
  | .notText => .error (.unreadable path .notText)
  | .refused reason => .error (.unreadable path (.refused reason))
  | .text contents => (ofText path contents).map some

/-- The settings from the file that the user names, or from the usual one. -/
def load (environment : Environment) (requested : Option Text) : Except SettingsError Settings :=
  match location environment requested with
  | .error error => if requested.isSome then .error error else .ok {}
  | .ok path => do
      match ← ofFile environment.files path with
      | some settings => return settings
      | none => if requested.isSome then .error (.missingFile path) else return {}

end Settings

end ForumQuery
