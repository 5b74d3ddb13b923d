import ForumQuery.Text.Numeral

/-!
# Arguments

The arguments name a command, with options before and after its name. An option either is a switch
or has a value, which stands after an equals sign or is the next argument. Some switches have a
letter, and letters may share one dash. An option may be given once in each of the two places. After
two dashes all arguments are plain.

Reading goes from left to right and stops at the first argument that cannot be used. Completions for
a shell and help texts are not modelled, so what asks for them counts as such an argument.
-/

namespace ForumQuery.CommandLine

/-- Options without a value. -/
inductive Switch where
  | json
  | verbose
  | version
  deriving DecidableEq

/-- Options with a value. -/
inductive Parameter where
  | config
  | offset
  | fromDate
  | toDate
  deriving DecidableEq

/-- The places in which options stand: before the name of a command, and after it. -/
inductive Scope where
  | root
  | parse
  | explain
  | dates
  deriving DecidableEq

namespace Scope

/-- The command of a name. -/
def ofName? (name : Text) : Option Scope :=
  if name = "parse".toList then some .parse
  else if name = "explain".toList then some .explain
  else if name = "dates".toList then some .dates
  else none

/-- The option without a value that a long name gives in this place. -/
def switch? (scope : Scope) (name : Text) : Option Switch :=
  if name = "json".toList then some .json
  else if name = "verbose".toList then some .verbose
  else if name = "version".toList ∧ scope = .root then some .version
  else none

/-- The option without a value that a letter gives in this place. -/
def letter? (scope : Scope) (letter : Char) : Option Switch :=
  if letter = 'v' then some .verbose
  else if letter = 'V' ∧ scope = .root then some .version
  else none

/-- The option with a value that a long name gives in this place. -/
def parameter? (scope : Scope) (name : Text) : Option Parameter :=
  if name = "config".toList then some .config
  else if name = "tz-offset".toList ∧ (scope = .parse ∨ scope = .dates) then some .offset
  else if name = "from".toList ∧ scope = .dates then some .fromDate
  else if name = "to".toList ∧ scope = .dates then some .toDate
  else none

end Scope

namespace Parameter

/-- Values that the option can be given: a path is not empty, an offset is a whole number of 32
bits. -/
def accepts (parameter : Parameter) (value : Text) : Bool :=
  match parameter with
  | .config => !value.isEmpty
  | .offset => (Text.Interval.signed32.read? value).isSome
  | .fromDate | .toDate => true

/-- Values that the option can take from an argument of their own. A dash in front would make the
argument an option, unless it is the sign of a number where one is expected. -/
def takes (parameter : Parameter) (value : Text) : Bool :=
  match value with
  | '-' :: c :: rest => parameter == .offset && (c :: rest).all Char.isDigit
  | _ => true

end Parameter

/-- What has been given in one place. -/
structure Given where
  switches : List Switch := []
  parameters : List (Parameter × Text) := []
  plain : List Text := []

namespace Given

/-- With one more option, unless it was there. -/
def withSwitch? (given : Given) (switch : Switch) : Option Given :=
  if switch ∈ given.switches then none
  else some { given with switches := switch :: given.switches }

/-- The value of an option. -/
def value? (given : Given) (parameter : Parameter) : Option Text :=
  (given.parameters.find? fun entry => entry.1 = parameter).map Prod.snd

/-- With a value for one more option, unless it was there or cannot have the value. -/
def withParameter? (given : Given) (parameter : Parameter) (value : Text) : Option Given :=
  if (given.value? parameter).isSome || !parameter.accepts value then none
  else some { given with parameters := (parameter, value) :: given.parameters }

/-- With one more plain argument. -/
def withPlain (given : Given) (argument : Text) : Given :=
  { given with plain := given.plain ++ [argument] }

end Given

/-- What reading the arguments of one place ends with. -/
inductive Ending where
  /-- All arguments are read. -/
  | complete (given : Given)
  /-- A command begins, with the arguments after its name. -/
  | command (given : Given) (name : Text) (rest : List Text)
  /-- The version is asked for. -/
  | version

/-- Where some letters behind one dash lead to. -/
inductive Progress where
  | further (given : Given)
  | version

/-- Read the letters behind one dash. -/
def readLetters? (scope : Scope) (given : Given) : List Char → Option Progress
  | [] => some (.further given)
  | letter :: rest =>
      match scope.letter? letter with
      | none => none
      | some .version => some .version
      | some switch => (given.withSwitch? switch).bind fun given => readLetters? scope given rest

/-- A long option split at its first equals sign: the name, and the value if there is the sign. -/
def splitLong (argument : Text) : Text × Option Text :=
  (argument.takeWhile (· ≠ '='), (argument.dropWhile (· ≠ '=')).tail?)

/-- Read the arguments of one place. -/
def readScope? (scope : Scope) (given : Given) : List Text → Option Ending
  | [] => some (.complete given)
  | ['-', '-'] :: rest =>
      if scope = .root then none
      else some (.complete { given with plain := given.plain ++ rest })
  | ('-' :: '-' :: long) :: rest =>
      let (name, attached) := splitLong long
      match scope.parameter? name, attached, rest with
      | some parameter, some value, rest =>
          (given.withParameter? parameter value).bind fun given => readScope? scope given rest
      | some parameter, none, value :: rest =>
          if parameter.takes value then
            (given.withParameter? parameter value).bind fun given => readScope? scope given rest
          else none
      | some _, none, [] => none
      | none, attached, rest =>
          match scope.switch? name, attached with
          | some .version, none => some .version
          | some switch, none =>
              (given.withSwitch? switch).bind fun given => readScope? scope given rest
          | _, _ => none
  | ('-' :: letter :: letters) :: rest =>
      match readLetters? scope given (letter :: letters) with
      | none => none
      | some .version => some .version
      | some (.further given) => readScope? scope given rest
  | argument :: rest =>
      if scope = .root then some (.command given argument rest)
      else readScope? scope (given.withPlain argument) rest

/-- What is to be done. -/
inductive Command where
  | parse (query : Text) (offset : Option Int)
  | explain (query : Text)
  | dates (first last : Option Text) (offset : Option Int)
  deriving DecidableEq

/-- A command with the options that all commands share. -/
structure Invocation where
  settingsPath : Option Text := none
  json : Bool := false
  verbose : Bool := false
  command : Command
  deriving DecidableEq

/-- What the arguments ask for. -/
inductive Request where
  | version
  | invoke (invocation : Invocation)
  deriving DecidableEq

/-- The offset given for a command. -/
def Given.offset (given : Given) : Option Int :=
  (given.value? .offset).bind Text.Interval.signed32.read?

/-- The command of a place, if its plain arguments are as many as it needs. -/
def Given.command? (given : Given) (scope : Scope) : Option Command :=
  match scope, given.plain with
  | .parse, [query] => some (.parse query given.offset)
  | .explain, [query] => some (.explain query)
  | .dates, [] => some (.dates (given.value? .fromDate) (given.value? .toDate) given.offset)
  | _, _ => none

/-- The request that the arguments make; `none` if they cannot be used. A path given after the name
of the command wins over one before it. -/
def Request.read? (arguments : List Text) : Option Request := do
  match ← readScope? .root {} arguments with
  | .complete _ => none
  | .version => return .version
  | .command before name rest =>
      let scope ← Scope.ofName? name
      let .complete after ← readScope? scope {} rest | none
      let command ← after.command? scope
      return .invoke {
        settingsPath := (after.value? .config).orElse fun _ => before.value? .config
        json := decide (Switch.json ∈ after.switches ∨ Switch.json ∈ before.switches)
        verbose := decide (Switch.verbose ∈ after.switches ∨ Switch.verbose ∈ before.switches)
        command := command }

end ForumQuery.CommandLine
