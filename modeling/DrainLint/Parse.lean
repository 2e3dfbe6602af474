import DrainLint.Error
import DrainLint.Grammar.Table
import DrainLint.Text.Quoted

/-! # Parsing a file

The crate of a source file, or why there is none: either text is left that the grammar has no place
for, or a literal denotes no value.
-/

namespace DrainLint

open Hir

/-- Why a file has no crate. -/
inductive ParseError where
  /-- Text is left after the items; the location is where it starts, the excerpt how it starts. -/
  | unexpected (name : String) (location : Location) (excerpt : List Char)
  /-- A literal denotes no value. -/
  | literal (name : String) (location : Location) (fault : LiteralFault)

namespace ParseError

def code : ParseError → ErrorCode
  | unexpected .. => .syntaxError
  | literal .. => .unsupportedSyntax

def location : ParseError → Location
  | unexpected _ location _ | literal _ location _ => location

def message : ParseError → String
  | unexpected name _ excerpt =>
    s!"cannot parse {name}: unexpected input {Text.quotedChars excerpt}"
  | literal name _ fault => s!"cannot lower {name}: {fault.className}"

/-- The rule of the grammar that did not go on, if the text is at fault. -/
def rule : ParseError → String
  | unexpected .. => "crate"
  | literal .. => ""

def line (error : ParseError) : String := error.code.line (some error.location) error.message

end ParseError

namespace SourceFile

/-- What is shown of the text from an offset on: twenty characters of one line. -/
def excerpt (rest : List Char) : List Char := (rest.take 20).takeWhile (· != '\n')

def parse (source : SourceFile) : Except ParseError Crate :=
  let unexpected (offset : Nat) (rest : List Char) : Except ParseError Crate :=
    .error (.unexpected source.name (source.location (Span.between offset offset)) (excerpt rest))
  match Grammar.matchCrate? source.text with
  | none => unexpected 0 source.text
  | some (build, after) =>
    if after.rest.isEmpty then
      match build 0 with
      | .ok (crate, _) => .ok crate
      | .error fault => .error (.literal source.name (source.location Span.origin) fault)
    else unexpected after.offset after.rest

end SourceFile
end DrainLint
