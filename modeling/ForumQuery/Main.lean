import ForumQuery.CommandLine.Run
import Std.Time.DateTime.Timestamp

/-!
# The program

The outermost layer looks at the machine, runs the command and prints what it gives.

Some things that a user may meet are not modelled. There is no command that writes completions for
a shell, and there are no help texts; arguments that cannot be used get one short text, whatever is
wrong with them. A settings file that cannot be understood is reported without saying where it goes
wrong. Log lines have no colours, and are chosen by level only, not by where they come from.
-/

namespace ForumQuery

/-- What stands at a path that cannot be read. The system reports a directory by error number 21; any
other failure is a refusal, and that of permission has the usual wording. -/
def unreadState : IO.Error → FileState
  | .inappropriateType _ 21 _ => .directory
  | .permissionDenied _ code reason =>
      .refused (reason.toList ++ " (os error ".toList ++ Text.digits code.toNat ++ ")".toList)
  | error => .refused error.toString.toList

/-- The path can be followed to its end. -/
def leadsSomewhere (path : Text) : IO Bool := do
  try
    let _ ← IO.FS.realPath (String.ofList path)
    return true
  catch _ =>
    return false

/-- What a path leads to on this machine. -/
def fileState (path : Text) : IO FileState := do
  try
    return .ofBytes (← IO.FS.readBinFile (String.ofList path))
  catch error =>
    return if ← leadsSomewhere path then unreadState error else .missing

/-- The value of an environment variable. -/
def environmentVariable (name : String) : IO (Option Text) := do
  return (← IO.getEnv name).map String.toList

/-- The home directory. It is known by its variable, unless that is empty; the list of the system's
users, which could name one too, is not asked. -/
def homeDirectory : IO (Option Text) := do
  return (← environmentVariable "HOME").filter fun directory => !directory.isEmpty

/-- The machine as a command sees it. Of its files only the one that holds the settings is looked
at. -/
def observe (arguments : List Text) : IO CommandLine.Host := do
  let environment : Environment :=
    { configHome := ← environmentVariable "XDG_CONFIG_HOME", home := ← homeDirectory }
  let requested :=
    match CommandLine.Request.read? arguments with
    | some (.invoke invocation) => invocation.settingsPath
    | _ => none
  let files : Files ←
    match Settings.location environment requested with
    | .error _ => pure fun _ => .missing
    | .ok path => do
        let state ← fileState path
        pure fun other => if other = path then state else .missing
  let now ← Std.Time.Timestamp.now
  return {
    environment := { environment with files := files }
    logLevel := ← environmentVariable "RUST_LOG"
    now := now.toMillisecondsSinceUnixEpoch.val }

/-- The text for arguments that cannot be used. -/
def usage : String :=
  "error: unusable arguments\n\n"
    ++ "Usage: sift [OPTIONS] parse [--tz-offset SECONDS] QUERY\n"
    ++ "       sift [OPTIONS] explain QUERY\n"
    ++ "       sift [OPTIONS] dates [--from DATE] [--to DATE] [--tz-offset SECONDS]\n\n"
    ++ "Options: --config PATH, --json, -v or --verbose, -V or --version\n"

end ForumQuery

open ForumQuery in
/-- The entry point of the program. -/
def main (arguments : List String) : IO UInt32 := do
  let arguments := arguments.map String.toList
  match CommandLine.run (← observe arguments) arguments with
  | none =>
      IO.eprint usage
      return 2
  | some outcome =>
      IO.print (String.ofList outcome.output)
      IO.eprint (String.ofList outcome.errors)
      return outcome.code.toUInt32
