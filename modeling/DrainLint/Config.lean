import DrainLint.Checker.Basic
import DrainLint.Error
import DrainLint.Log
import DrainLint.Report.Format
import DrainLint.Text.LowerCase

/-! # Configuration

What a run does, from the variables of the environment and from what is given in their place.

- `Config`: the settings;
- `Config.ofEnv`: the settings that the variables of an environment ask for;
- `Config.override`: the settings with some of them replaced;
- `InvalidSetting`: a value that a setting does not have.
-/

namespace DrainLint

/-! ## Values -/

/-- Whether text is coloured: only on a terminal, always or never. -/
inductive ColourMode where
  | auto
  | always
  | never
  deriving DecidableEq

namespace ColourMode

def all : List ColourMode := [auto, always, never]

def name : ColourMode → String
  | auto => "auto"
  | always => "always"
  | never => "never"

def ofName? (name : String) : Option ColourMode := all.find? fun mode => mode.name == name

/-- Whether a mode colours what is written to a terminal or to something else. -/
def colours (mode : ColourMode) (terminal : Bool) : Bool :=
  match mode with
  | auto => terminal
  | always => true
  | never => false

end ColourMode

/-- The capital of a letter, as far as the names of log levels have it; the dotless i has the
capital of i. -/
def upperLetter (c : Char) : Char := if c = 'ı' then 'I' else c.toUpper

def LogLevel.ofText? (text : String) : Option LogLevel :=
  all.find? fun level => level.name == text.map upperLetter

/-- What is given for a setting that has a name for each of its values: a name, or an empty list in
its place. -/
inductive Given where
  | name (text : String)
  | nothing
  deriving DecidableEq

def Given.shown : Given → String
  | name text => Text.quoted text
  | nothing => "[]"

/-- A value that a setting does not have.  A log level must have a name to be looked at. -/
inductive InvalidSetting where
  | outputFormat (value : Given)
  | colourMode (value : Given)
  | logLevel (value : String)
  | namelessLevel
  deriving DecidableEq

namespace InvalidSetting

def code : ErrorCode := .invalidOption

/-- The values that a setting has, as they are listed after a value that it does not have. -/
def expected (names : List String) : String :=
  "(expected one of " ++ ", ".intercalate names ++ ")"

def message : InvalidSetting → String
  | outputFormat value =>
    s!"invalid output format {value.shown} " ++
      expected (OutputFormat.all.map OutputFormat.name)
  | colourMode value =>
    s!"invalid colour mode {value.shown} {expected (ColourMode.all.map ColourMode.name)}"
  | logLevel value => s!"invalid log level {Text.quoted value}"
  | namelessLevel => "'list' object has no attribute 'upper'"

def line (invalid : InvalidSetting) : String := code.line none invalid.message

end InvalidSetting

/-! ## Settings -/

/-- The settings of a run.  Without a list of checkers those that are switched on are run; the extra
options are handed to every checker. -/
structure Config where
  checkers? : Option (List String) := none
  suppress : List String := []
  format : OutputFormat := .text
  colour : ColourMode := .auto
  sarifPath? : Option String := none
  logLevel : LogLevel := .warning
  failOnFindings : Bool := true
  suggestions : Bool := true
  extra : Keyed JsonValue := []

/-- Settings that are given in place of others, as far as they are given. -/
structure Overrides where
  checkers? : Option (List String) := none
  suppress? : Option (List String) := none
  format? : Option Given := none
  colour? : Option Given := none
  sarifPath? : Option String := none
  logLevel? : Option Given := none
  failOnFindings? : Option Bool := none
  suggestions? : Option Bool := none
  extra? : Option (Keyed JsonValue) := none

namespace Config

/-- The format that is given by name, or the one that there is. -/
def formatOf (given? : Option Given) (otherwise : OutputFormat) :
    Except InvalidSetting OutputFormat :=
  match given? with
  | none => .ok otherwise
  | some (.name text) =>
    (OutputFormat.ofName text).mapError fun _ => .outputFormat (.name text)
  | some .nothing => .error (.outputFormat .nothing)

/-- The colour mode that is given by name, or the one that there is. -/
def colourOf (given? : Option Given) (otherwise : ColourMode) : Except InvalidSetting ColourMode :=
  match given? with
  | none => .ok otherwise
  | some (.name text) => match ColourMode.ofName? text with
    | some mode => .ok mode
    | none => .error (.colourMode (.name text))
  | some .nothing => .error (.colourMode .nothing)

/-- The log level that is given by name, or the one that there is. -/
def logLevelOf (given? : Option Given) (otherwise : LogLevel) : Except InvalidSetting LogLevel :=
  match given? with
  | none => .ok otherwise
  | some (.name text) => match LogLevel.ofText? text with
    | some level => .ok level
    | none => .error (.logLevel text)
  | some .nothing => .error .namelessLevel

/-- The settings with some of them replaced.  More suppressed ids come after those that there
are. -/
def override (config : Config) (given : Overrides) : Except InvalidSetting Config := do
  let format ← formatOf given.format? config.format
  let colour ← colourOf given.colour? config.colour
  let logLevel ← logLevelOf given.logLevel? config.logLevel
  return {
    format, colour, logLevel
    checkers? := given.checkers?.orElse fun _ => config.checkers?
    suppress := config.suppress ++ given.suppress?.getD []
    sarifPath? := given.sarifPath?.orElse fun _ => config.sarifPath?
    failOnFindings := given.failOnFindings?.getD config.failOnFindings
    suggestions := given.suggestions?.getD config.suggestions
    extra := given.extra?.getD config.extra }

/-! ## Environment -/

def nonempty? (env : Keyed String) (name : String) : Option String :=
  (Keyed.get? name env).filter fun value => !value.isEmpty

def plainName (text : String) : String := Text.lowerCase (Text.trimString text)

def colourVariable? (env : Keyed String) : Option String :=
  match nonempty? env "POPLINT_COLOUR" with
  | some value => some (plainName value)
  | none => (nonempty? env "NO_COLOR").map fun _ => ColourMode.never.name

def envOverrides (env : Keyed String) : Overrides where
  format? := (nonempty? env "POPLINT_FORMAT").map fun value => .name (plainName value)
  colour? := (colourVariable? env).map .name
  sarifPath? := nonempty? env "POPLINT_SARIF"
  logLevel? := (nonempty? env "POPLINT_LOG_LEVEL").map fun value => .name (Text.trimString value)
  suppress? := (nonempty? env "POPLINT_SUPPRESS").map Text.commaParts

def ofEnv (env : Keyed String) : Except InvalidSetting Config := override {} (envOverrides env)

/-! ## Uses -/

def options (config : Config) : Keyed JsonValue :=
  Keyed.set "suggestions" (.bool config.suggestions) config.extra

def checkOptions (config : Config) : CheckOptions := ⟨config.suggestions⟩

end Config
end DrainLint
