import DrainLint.Diagnostic.Basic
import DrainLint.Keyed

/-! # SARIF reports

Diagnostics in the interchange format for the results of static analysis.

- `Region`: a part of a file in lines and columns;
- `SarifLog`: the rules and results of a run, and `SarifLog.add`, which adds a diagnostic;
- `SarifLog.toJson`: the report.
-/

namespace DrainLint

/-- A part of a file: a line, maybe from a column on, or what lies between two places. -/
inductive Region where
  | line (number : Int) (column? : Option Int)
  | range (startLine startCol endLine endCol : Nat)
  deriving DecidableEq

namespace Region

def ofSpan (source : SourceFile) (span : Span) : Region :=
  let (startLine, startCol) := source.lineCol span.lo
  let (endLine, endCol) := source.lineCol span.hi
  range startLine startCol endLine endCol

/-- The region of a line and column, each of which is zero where it is not known. -/
def ofPlace (line column : Int) : Region :=
  .line (max line 1) (if column = 0 then none else some column)

/-- The region of a span, or of a place where the source or the span is not known. -/
def ofSpan? (source? : Option SourceFile) (span? : Option Span) (line column : Int) : Region :=
  match source?, span? with
  | some source, some span => ofSpan source span
  | _, _ => ofPlace line column

def toJson : Region → JsonValue
  | line number column? =>
    .obj (("startLine", .int number) :: match column? with
      | none => []
      | some column => [("startColumn", .int column)])
  | range startLine startCol endLine endCol =>
    .obj [("startLine", .int startLine), ("startColumn", .int startCol),
      ("endLine", .int endLine), ("endColumn", .int endCol)]

end Region

/-! ## Parts of a report -/

/-- What is said once about all results with an error id. -/
structure SarifRule where
  id : String
  description : String
  lint : String
  level : String
  deriving DecidableEq

/-- Replacements of regions that mend a result. -/
structure SarifFix where
  description : String
  applicability : Applicability
  replacements : List (Region × String)

/-- A result; the related regions have a label each. -/
structure SarifResult where
  ruleId : String
  level : String
  message : String
  file : String
  region : Region
  related : List (Region × String)
  fix? : Option SarifFix

/-- The rules and results of a run. -/
structure SarifLog where
  rules : List SarifRule := []
  results : List SarifResult := []

namespace Diagnostic

def sarifRule (diagnostic : Diagnostic) : SarifRule :=
  ⟨diagnostic.errorId, diagnostic.message, diagnostic.lint, diagnostic.severity.sarifLevel⟩

def sarifFix? (diagnostic : Diagnostic) (source? : Option SourceFile) : Option SarifFix :=
  match diagnostic.suggestion?, source? with
  | some suggestion, some source =>
    some ⟨suggestion.message, suggestion.applicability,
      suggestion.edits.map fun edit => (Region.ofSpan source edit.span, edit.replacement)⟩
  | _, _ => none

def sarifResult (diagnostic : Diagnostic) (source? : Option SourceFile) : SarifResult :=
  let place := diagnostic.location
  { ruleId := diagnostic.errorId
    level := diagnostic.severity.sarifLevel
    message := diagnostic.message
    file := place.file
    region := Region.ofSpan? source? diagnostic.span? place.line place.column
    related := diagnostic.secondary.map fun (span, label) =>
      (Region.ofSpan? source? (some span) place.line 0, label)
    fix? := diagnostic.sarifFix? source? }

end Diagnostic

namespace SarifLog

/-- The rules with the one of a diagnostic, if none has its id. -/
def addRule (rules : List SarifRule) (rule : SarifRule) : List SarifRule :=
  if rules.any fun known => known.id == rule.id then rules else rules ++ [rule]

def add (log : SarifLog) (diagnostic : Diagnostic) (source? : Option SourceFile) : SarifLog where
  rules := addRule log.rules diagnostic.sarifRule
  results := log.results ++ [diagnostic.sarifResult source?]

end SarifLog

/-! ## JSON -/

def sarifText (text : String) : JsonValue := .obj [("text", .str text)]

def sarifFile (file : String) : String × JsonValue :=
  ("artifactLocation", .obj [("uri", .str file)])

def sarifPlace (file : String) (region : Region) : String × JsonValue :=
  ("physicalLocation", .obj [sarifFile file, ("region", region.toJson)])

def SarifRule.toJson (rule : SarifRule) : JsonValue :=
  let named := if rule.lint.isEmpty then [] else
    [("name", JsonValue.str rule.lint),
      ("defaultConfiguration", JsonValue.obj [("level", .str rule.level)])]
  .obj ([("id", .str rule.id), ("shortDescription", sarifText rule.description)] ++ named)

/-- The fix of a result, and how sure it is. -/
def SarifFix.members (fix : SarifFix) (file : String) : List (String × JsonValue) :=
  let replacements := fix.replacements.map fun (region, text) =>
    JsonValue.obj [("deletedRegion", region.toJson), ("insertedContent", sarifText text)]
  let change := JsonValue.obj [sarifFile file, ("replacements", .arr replacements)]
  [("fixes", .arr [.obj [("description", sarifText fix.description),
      ("artifactChanges", .arr [change])]]),
    ("properties", .obj [("applicability", .str fix.applicability.name)])]

def SarifResult.toJson (result : SarifResult) : JsonValue :=
  let related := result.related.zipIdx.map fun ((region, label), index) =>
    JsonValue.obj [("id", .int index), ("message", sarifText label), sarifPlace result.file region]
  let relatedMember := if related.isEmpty then [] else [("relatedLocations", JsonValue.arr related)]
  let fixMembers := match result.fix? with
    | none => []
    | some fix => fix.members result.file
  .obj ([("ruleId", .str result.ruleId), ("level", .str result.level),
    ("message", sarifText result.message),
    ("locations", .arr [.obj [sarifPlace result.file result.region]])]
    ++ relatedMember ++ fixMembers)

namespace SarifLog

def schema : String :=
  "https://raw.githubusercontent.com/oasis-tcs/sarif-spec/master/Schemata/sarif-schema-2.1.0.json"

def toJson (log : SarifLog) (tool version : String) : JsonValue :=
  let driver := JsonValue.obj [("name", .str tool), ("version", .str version),
    ("rules", .arr (log.rules.map SarifRule.toJson))]
  let run := JsonValue.obj [("tool", .obj [("driver", driver)]),
    ("results", .arr (log.results.map SarifResult.toJson))]
  .obj [("$schema", .str schema), ("version", .str "2.1.0"), ("runs", .arr [run])]

end SarifLog
end DrainLint
