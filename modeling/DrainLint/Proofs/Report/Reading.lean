import DrainLint.Proofs.Fix.Rewriting
import DrainLint.Proofs.Source.Places
import DrainLint.Report.Sarif

/-! # Parts of a report

What a reader looks up in the JSON forms of diagnostics, and where it was written.

- `JsonValue.member?` and the like: parts of a JSON value;
- `JsonValue.places?`, `primaryRegion?`, `relatedRegion?`: the regions of a result and their places;
- `JsonValue.fixReplacements?`: the parts of the text that the fix of a result replaces;
- `JsonValue.suggestedEdits?`: the edits of a diagnostic that was written by itself;
- `JsonValue.runResults?`, `JsonValue.runRules?`: the results and rules of a report;
- `mapM_map_eq_some`: lists that are read back element by element.
-/

namespace DrainLint

/-! ## Parts of JSON values -/

namespace JsonValue

def member? (name : String) : JsonValue → Option JsonValue
  | obj members => members.lookup name
  | _ => none

def elems? : JsonValue → Option (List JsonValue)
  | arr elems => some elems
  | _ => none

/-- The element of an array that has no other one. -/
def only? : JsonValue → Option JsonValue
  | arr [value] => some value
  | _ => none

def text? : JsonValue → Option String
  | str text => some text
  | _ => none

def natural? : JsonValue → Option Nat
  | int (.ofNat value) => some value
  | _ => none

/-- The places where a region begins and ends. -/
def places? (region : JsonValue) : Option (LineCol × LineCol) := do
  let startLine ← (← region.member? "startLine").natural?
  let startColumn ← (← region.member? "startColumn").natural?
  let endLine ← (← region.member? "endLine").natural?
  let endColumn ← (← region.member? "endColumn").natural?
  some (toLex (startLine, startColumn), toLex (endLine, endColumn))

/-- The region of a location. -/
def region? (location : JsonValue) : Option JsonValue := do
  (← location.member? "physicalLocation").member? "region"

/-- The region of what a result is about. -/
def primaryRegion? (result : JsonValue) : Option JsonValue := do
  (← (← result.member? "locations").only?).region?

/-- The region of a related location of a result. -/
def relatedRegion? (result : JsonValue) (index : Nat) : Option JsonValue := do
  (← (← (← result.member? "relatedLocations").elems?)[index]?).region?

/-- The region that is deleted, and what is put in there. -/
def replacement? (value : JsonValue) : Option (Replacement LineCol) := do
  let (start, stop) ← (← value.member? "deletedRegion").places?
  let text ← (← (← value.member? "insertedContent").member? "text").text?
  some ⟨start, stop, text⟩

/-- The replacements of the only change of the only fix of a result. -/
def fixReplacements? (result : JsonValue) : Option (List (Replacement LineCol)) := do
  let fix ← (← result.member? "fixes").only?
  let change ← (← fix.member? "artifactChanges").only?
  (← (← change.member? "replacements").elems?).mapM replacement?

def edit? (value : JsonValue) : Option Edit := do
  let lo ← (← value.member? "lo").natural?
  let hi ← (← value.member? "hi").natural?
  let replacement ← (← value.member? "replacement").text?
  if ordered : lo ≤ hi then some ⟨⟨lo, hi, ordered⟩, replacement⟩ else none

/-- The edits of the fix of a diagnostic, by offsets. -/
def suggestedEdits? (diagnostic : JsonValue) : Option (List Edit) := do
  (← (← (← diagnostic.member? "suggestion").member? "edits").elems?).mapM edit?

/-- What the only run of a report says. -/
def runResults? (report : JsonValue) : Option (List JsonValue) := do
  (← (← (← report.member? "runs").only?).member? "results").elems?

/-- The rules of the tool of the only run of a report. -/
def runRules? (report : JsonValue) : Option (List JsonValue) := do
  let tool ← (← (← report.member? "runs").only?).member? "tool"
  (← (← tool.member? "driver").member? "rules").elems?

/-- The text that describes a rule. -/
def ruleText? (rule : JsonValue) : Option JsonValue := do
  (← rule.member? "shortDescription").member? "text"

/-- The level of a rule where nothing else is said. -/
def ruleLevel? (rule : JsonValue) : Option JsonValue := do
  (← rule.member? "defaultConfiguration").member? "level"

end JsonValue

/-- What is written element by element is read back element by element. -/
theorem mapM_map_eq_some {α β γ : Type} (write : α → β) (read : β → Option γ) (value : α → γ)
    {xs : List α} (reads : ∀ x ∈ xs, read (write x) = some (value x)) :
    (xs.map write).mapM read = some (xs.map value) := by
  induction xs with
  | nil => rfl
  | cons x xs inductionHypothesis =>
    rw [List.forall_mem_cons] at reads
    rw [List.map_cons, List.mapM_cons, reads.1, inductionHypothesis reads.2]
    rfl

/-! ## Results, rules and diagnostics -/

namespace SarifResult

open JsonValue

variable (result : SarifResult)

theorem primaryRegion?_toJson : result.toJson.primaryRegion? = some result.region.toJson := rfl

theorem relatedRegion?_toJson {index : Nat} {region : Region} {label : String}
    (listed : result.related[index]? = some (region, label)) :
    result.toJson.relatedRegion? index = some region.toJson := by
  obtain ⟨ruleId, level, message, file, primary, related, fix?⟩ := result
  have located : (related.zipIdx.map fun entry => JsonValue.obj [("id", .int entry.2),
      ("message", sarifText entry.1.2), sarifPlace file entry.1.1])[index]? =
        some (.obj [("id", .int index), ("message", sarifText label), sarifPlace file region]) := by
    simp [listed]
  cases related with
  | nil => cases listed
  | cons first rest =>
    have read := congrArg (fun location => location.bind region?) located
    exact read

theorem fixReplacements?_toJson {fix : SarifFix} (hasFix : result.fix? = some fix) :
    result.toJson.fixReplacements? = (fix.replacements.map fun (region, text) =>
      JsonValue.obj [("deletedRegion", region.toJson), ("insertedContent", sarifText text)]).mapM
        replacement? := by
  obtain ⟨ruleId, level, message, file, primary, related, fix?⟩ := result
  subst hasFix
  cases related <;> rfl

end SarifResult

namespace Diagnostic

open JsonValue

theorem suggestedEdits?_toJson {diagnostic : Diagnostic} {suggestion : Suggestion}
    (suggests : diagnostic.suggestion? = some suggestion) :
    diagnostic.toJson.suggestedEdits? = (suggestion.edits.map Edit.toJson).mapM edit? := by
  obtain ⟨errorId, message, severity, location, span?, suggestion?, checkerName, lint, addon,
    secondary⟩ := diagnostic
  subst suggests
  have member : (toJson ⟨errorId, message, severity, location, span?, some suggestion, checkerName,
      lint, addon, secondary⟩).member? "suggestion" = some suggestion.toJson := by
    by_cases unnamed : lint.isEmpty <;> cases span? <;>
      simp [toJson, unnamed, member?, List.lookup_cons]
  rw [suggestedEdits?, member]
  rfl

end Diagnostic
end DrainLint
