import DrainLint.Source.File

/-! # Errors

The errors that are reported under a stable code, by cause.

- `ErrorCode`: the codes with their titles;
- `ErrorCode.line`: the line that shows an error.
-/

namespace DrainLint

inductive ErrorCode where
  | syntaxError
  | unsupportedSyntax
  | overlappingEdits
  | invalidOption
  deriving DecidableEq

namespace ErrorCode

def code : ErrorCode → String
  | syntaxError => "POP-1001"
  | unsupportedSyntax => "POP-1002"
  | overlappingEdits => "POP-3001"
  | invalidOption => "POP-4001"

def title : ErrorCode → String
  | syntaxError => "syntax error"
  | unsupportedSyntax => "unsupported syntax"
  | overlappingEdits => "overlapping suggestion edits"
  | invalidOption => "invalid configuration value"

end ErrorCode

/-- The line that shows an error: its place, if it has one, its code and its message. -/
def ErrorCode.line (code : ErrorCode) (location? : Option Location) (message : String) : String :=
  let place := match location? with
    | some location => location.text ++ ": "
    | none => ""
  s!"{place}error[{code.code}]: {message}"

end DrainLint
