import DrainLint.Text.Quoted

/-! # Output formats

The formats that diagnostics are written in: for people, as compilers write them, and as JSON.
-/

namespace DrainLint

inductive OutputFormat where
  | text
  | gcc
  | json
  deriving DecidableEq

namespace OutputFormat

def all : List OutputFormat := [text, gcc, json]

def name : OutputFormat → String
  | text => "text"
  | gcc => "gcc"
  | json => "json"

/-- A name that no format has. -/
structure Unknown where
  name : String
  deriving DecidableEq

def Unknown.message (unknown : Unknown) : String :=
  s!"unknown output format {Text.quoted unknown.name}"

def ofName (text : String) : Except Unknown OutputFormat :=
  match all.find? fun format => format.name == text with
  | some format => .ok format
  | none => .error ⟨text⟩

end OutputFormat

end DrainLint
