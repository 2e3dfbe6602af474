import DrainLint.Command.Help

/-! # Requests

What the arguments of the program ask for.

- `Action` and `Request`: something to do, with settings, or a text to show;
- `Request.ofArgs`: the request that some arguments are.
-/

namespace DrainLint.Command

/-- What the program is asked to do. -/
inductive Action where
  | check (paths : List String)
  | dumpHir (input : String)
  | listCheckers
  deriving DecidableEq

/-- What the arguments ask for: a text to be shown, or an action with settings in place of those of
the environment. -/
inductive Request where
  | display (text : String)
  | act (given : Overrides) (action : Action)

/-- Arguments that cannot be read, with the page of the command that they were for. -/
structure Refusal where
  page : Page
  fault : Fault

def Refusal.text (refusal : Refusal) : String := refusal.page.complaint refusal.fault

/-! ## Options -/

namespace Reading

def usesOf (reading : Reading) (name : String) : List Use :=
  reading.uses.filter fun use => use.flag.names.contains name

def count (reading : Reading) (name : String) : Nat := (reading.usesOf name).length

def has (reading : Reading) (name : String) : Bool := reading.count name != 0

def given? (reading : Reading) (name : String) : Option Given :=
  (reading.usesOf name).getLast?.map fun use => use.value?.elim .nothing .name

/-- The path that an option gives where it is used last; without a value it is empty. -/
def path? (reading : Reading) (name : String) : Option String :=
  (reading.usesOf name).getLast?.map fun use => use.value?.getD ""

/-- The parts of all values that an option is used with, if it is used. -/
def parts? (reading : Reading) (name : String) : Option (List String) :=
  if reading.has name then
    some (((reading.usesOf name).filterMap Use.value?).flatMap Text.commaParts)
  else none

def logLevel? (reading : Reading) : Option Given :=
  match reading.given? "--log-level", reading.count "--verbose" with
  | some given, _ => some given
  | none, 0 => none
  | none, 1 => some (.name LogLevel.info.name)
  | none, _ => some (.name LogLevel.debug.name)

def overrides (common special : Reading) : Overrides where
  format? := special.given? "--format"
  colour? :=
    if special.has "--no-color" then some (.name ColourMode.never.name)
    else special.given? "--color"
  sarifPath? := special.path? "--sarif"
  logLevel? := common.logLevel?
  suppress? := special.parts? "--suppress"
  checkers? := special.parts? "--checkers"
  failOnFindings? := if special.has "--no-fail" then some false else none
  suggestions? := if special.has "--no-suggestions" then some false else none

end Reading

namespace Request

/-! ## Commands -/

/-- The interface, the page and the action of a command. -/
def commandOf (name : String) : Interface × Page × (List String → Action) :=
  if name = "check" then (check, checkPage, .check)
  else if name = "dump-hir" then
    (dumpHir, dumpHirPage, fun operands => .dumpHir (operands.headD ""))
  else (listCheckers, listCheckersPage, fun _ => .listCheckers)

/-- The request for a command with its arguments, after the options of the program. -/
def ofCommand (common : Reading) (name : String) (args : List String) : Except Refusal Request := do
  let (interface, page, action) := commandOf name
  let special ← (interface.read args).mapError fun fault => ⟨page, fault⟩
  if special.ending?.isSome then return .display page.help
  let extras := common.extras ++ special.extras
  if !extras.isEmpty then throw ⟨programPage, .unrecognized extras⟩
  return .act (Reading.overrides common special) (action special.operands)

def ofArgs (args : List String) : Except Refusal Request := do
  let common ← (program.read args).mapError fun fault => ⟨programPage, fault⟩
  match common.ending?, common.operands with
  | some flag, _ =>
    return .display (if flag = versionFlag then s!"{programName} {version}\n" else programPage.help)
  | none, name :: rest => ofCommand common name rest
  | none, [] =>
    if common.extras.isEmpty then return .display programPage.help
    else throw ⟨programPage, .unrecognized common.extras⟩

end Request
end DrainLint.Command
