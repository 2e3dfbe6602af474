import DrainLint.Diagnostic.Severity
import DrainLint.Fix.Suggestion
import DrainLint.Text.JsonValue

/-! # Diagnostics

What is reported about a file, and its two forms of one line.

- `Diagnostic`: a message with its place, its severity and, maybe, a fix;
- `Diagnostic.toJson`: the diagnostic as a JSON object;
- `Diagnostic.gccLine`: the diagnostic as a line that compilers write.
-/

namespace DrainLint

def Edit.toJson (edit : Edit) : JsonValue :=
  .obj [("lo", .int edit.span.lo), ("hi", .int edit.span.hi),
    ("replacement", .str edit.replacement)]

def Suggestion.toJson (suggestion : Suggestion) : JsonValue :=
  .obj [("message", .str suggestion.message),
    ("applicability", .str suggestion.applicability.name),
    ("edits", .arr (suggestion.edits.map Edit.toJson))]

/-- A diagnostic.  The lint is the name that attributes allow it by, and is empty where there is
none; the other spans belong to the diagnostic too, each with a label. -/
structure Diagnostic where
  errorId : String
  message : String
  severity : Severity
  location : Location
  span? : Option Span := none
  suggestion? : Option Suggestion := none
  checkerName : String := ""
  lint : String := ""
  addon : String := "poplint"
  secondary : List (Span × String) := []

namespace Diagnostic

def toJson (diagnostic : Diagnostic) : JsonValue :=
  let lint := if diagnostic.lint.isEmpty then [] else [("lint", JsonValue.str diagnostic.lint)]
  let span := match diagnostic.span? with
    | none => []
    | some span => [("span", JsonValue.obj [("lo", .int span.lo), ("hi", .int span.hi)])]
  let suggestion := match diagnostic.suggestion? with
    | none => []
    | some suggestion => [("suggestion", suggestion.toJson)]
  .obj ([("file", .str diagnostic.location.file), ("linenr", .int diagnostic.location.line),
    ("column", .int diagnostic.location.column), ("severity", .str diagnostic.severity.label),
    ("message", .str diagnostic.message), ("addon", .str diagnostic.addon),
    ("errorId", .str diagnostic.errorId)] ++ lint ++ span ++ suggestion)

def jsonLine (diagnostic : Diagnostic) : String := diagnostic.toJson.compact

def gccLine (diagnostic : Diagnostic) : String :=
  s!"{diagnostic.location.text}: {diagnostic.severity.label}: {diagnostic.message} " ++
    s!"[{diagnostic.errorId}]"

end Diagnostic
end DrainLint
