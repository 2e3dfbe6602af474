import DrainLint.Proofs.Report.Reading
import DrainLint.Report.Reporter
import Mathlib.Data.List.Nodup

/-! # The outputs of a reporter

The numbers, the lines and the report of a reporter tell of the same diagnostics in the same order.

- `Reporter.Call`, `Reporter.run`, `Reporter.history`: what a reporter is asked for, and what it
  reports then;
- `Diagnostic.Describes`: a rule that tells what a diagnostic says;
- `SarifLog.Gathers`, `Gathers.add`: a log that holds a history, and one more diagnostic;
- `Reporter.Agrees`, `Agrees.afterReport`, `Agrees.afterRun`: a reporter whose outputs tell of a
  history, and what it reports next;
- `run_agrees`: the outputs of every run.
-/

namespace DrainLint

/-- A diagnostic that was reported, with the source file that was known for it then. -/
abbrev Reported := Diagnostic × Option SourceFile

/-! ## Runs -/

namespace Reporter

/-- What a reporter is asked for: one diagnostic, or those of a run of checkers with its sources. -/
inductive Call where
  | report (diagnostic : Diagnostic)
  | reportAll (results : Results)

def Call.diagnostics : Call → List Diagnostic
  | report diagnostic => [diagnostic]
  | reportAll results => results.diagnostics

def answer (reporter : Reporter) : Call → Reporter
  | .report diagnostic => reporter.report diagnostic
  | .reportAll results => reporter.reportAll results

/-- A reporter after a row of calls. -/
def run (reporter : Reporter) (calls : List Call) : Reporter := calls.foldl answer reporter

def withSource (reporter : Reporter) (diagnostic : Diagnostic) : Reported :=
  (diagnostic, Keyed.get? diagnostic.location.file reporter.sources)

/-- The diagnostics that a call reports; the sources of a run are known before its diagnostics. -/
def reported (reporter : Reporter) : Call → List Reported
  | .report diagnostic => [reporter.withSource diagnostic]
  | .reportAll results => results.diagnostics.map (reporter.addSources results.sources).withSource

/-- The diagnostics that a row of calls reports. -/
def history (reporter : Reporter) : List Call → List Reported
  | [] => []
  | call :: calls => reporter.reported call ++ (reporter.answer call).history calls

/-- A reporter that nothing was reported to yet, and that gathers a report. -/
def fresh (format : OutputFormat) (coloured : Bool) (sources : Keyed SourceFile) : Reporter :=
  { format, coloured, sources, sarif? := some {} }

theorem map_fst_withSource (reporter : Reporter) (diagnostics : List Diagnostic) :
    (diagnostics.map reporter.withSource).map Prod.fst = diagnostics := by
  rw [List.map_map]
  exact List.map_id diagnostics

/-- All diagnostics of the calls are reported, in their order. -/
theorem map_fst_history (reporter : Reporter) (calls : List Call) :
    (reporter.history calls).map Prod.fst = calls.flatMap Call.diagnostics := by
  induction calls generalizing reporter with
  | nil => rfl
  | cons call calls inductionHypothesis =>
    have first : (reporter.reported call).map Prod.fst = call.diagnostics := by
      cases call with
      | report diagnostic => rfl
      | reportAll results => exact map_fst_withSource ..
    rw [history, List.map_append, first, inductionHypothesis, List.flatMap_cons]

end Reporter

/-! ## Rules -/

/-- A rule that has the id of a diagnostic and its message and, where it has a lint, the lint and its
level. -/
structure Diagnostic.Describes (diagnostic : Diagnostic) (rule : JsonValue) : Prop where
  id : rule.member? "id" = some (.str diagnostic.errorId)
  description : rule.ruleText? = some (.str diagnostic.message)
  named : diagnostic.lint ≠ "" → rule.member? "name" = some (.str diagnostic.lint) ∧
    rule.ruleLevel? = some (.str diagnostic.severity.sarifLevel)
  unnamed : diagnostic.lint = "" → rule.member? "name" = none ∧
    rule.member? "defaultConfiguration" = none

theorem Diagnostic.describes_sarifRule (diagnostic : Diagnostic) :
    diagnostic.Describes diagnostic.sarifRule.toJson where
  id := rfl
  description := rfl
  named lint := by
    have filled : diagnostic.lint.isEmpty = false := by simpa using lint
    simp [SarifRule.toJson, sarifRule, filled, JsonValue.member?, JsonValue.ruleLevel?,
      List.lookup_cons]
  unnamed lint := by
    simp [SarifRule.toJson, sarifRule, lint, JsonValue.member?, List.lookup_cons]

/-! ## Logs -/

namespace SarifLog

/-- The ids of the rules of a log. -/
def ids (log : SarifLog) : List String := log.rules.map SarifRule.id

/-- The ids that the results of a log name, one for each result. -/
def named (log : SarifLog) : List String := log.results.map SarifResult.ruleId

/-- A log that holds what was reported: a result for each diagnostic, and one rule for each id that
results name, in the order in which the ids came up, made from the first diagnostic with the id. -/
structure Gathers (log : SarifLog) (history : List Reported) : Prop where
  results : log.results = history.map fun (diagnostic, source?) => diagnostic.sarifResult source?
  distinct : log.ids.Nodup
  listed : ∀ id, id ∈ log.ids ↔ id ∈ log.named
  ordered : log.ids.Pairwise fun left right => log.named.idxOf left < log.named.idxOf right
  first : ∀ rule ∈ log.rules, ∃ diagnostic source?,
    history.find? (fun entry => entry.1.errorId = rule.id) = some (diagnostic, source?) ∧
      diagnostic.Describes rule.toJson

variable {log : SarifLog} {history : List Reported}

theorem named_add (log : SarifLog) (diagnostic : Diagnostic) (source? : Option SourceFile) :
    (log.add diagnostic source?).named = log.named ++ [diagnostic.errorId] := by
  rw [named, add, List.map_append]
  rfl

theorem addRule_of_mem {rules : List SarifRule} {rule : SarifRule}
    (known : rule.id ∈ rules.map SarifRule.id) : addRule rules rule = rules := by
  obtain ⟨other, listed, same⟩ := List.mem_map.mp known
  exact if_pos (List.any_eq_true.mpr ⟨other, listed, by simpa using same⟩)

theorem addRule_of_not_mem {rules : List SarifRule} {rule : SarifRule}
    (unknown : rule.id ∉ rules.map SarifRule.id) : addRule rules rule = rules ++ [rule] := by
  refine if_neg fun any => unknown ?_
  obtain ⟨other, listed, same⟩ := List.any_eq_true.mp any
  exact List.mem_map.mpr ⟨other, listed, eq_of_beq same⟩

theorem gathers_empty : Gathers {} [] where
  results := rfl
  distinct := .nil
  listed _ := Iff.rfl
  ordered := .nil
  first _ listed := nomatch listed

/-- The ids of the rules stay in their order, whatever results come next. -/
theorem Gathers.ordered_append (gathers : log.Gathers history) (more : List String) :
    log.ids.Pairwise fun left right =>
      (log.named ++ more).idxOf left < (log.named ++ more).idxOf right := by
  refine gathers.ordered.imp_of_mem fun {left right} leftListed rightListed earlier => ?_
  rw [gathers.listed] at leftListed rightListed
  rwa [List.idxOf_append_of_mem leftListed, List.idxOf_append_of_mem rightListed]

/-- A rule stays the one of the first diagnostic with its id, whatever comes next. -/
theorem Gathers.first_append (gathers : log.Gathers history) (more : List Reported)
    {rule : SarifRule} (listed : rule ∈ log.rules) : ∃ diagnostic source?,
      (history ++ more).find? (fun entry => entry.1.errorId = rule.id) =
        some (diagnostic, source?) ∧ diagnostic.Describes rule.toJson := by
  obtain ⟨diagnostic, source?, found, describes⟩ := gathers.first rule listed
  exact ⟨diagnostic, source?, by rw [List.find?_append, found, Option.some_or], describes⟩

/-- An id that no rule has is that of no diagnostic reported before. -/
theorem Gathers.find?_eq_none (gathers : log.Gathers history) {id : String} (unknown : id ∉ log.ids) :
    history.find? (fun entry => entry.1.errorId = id) = none := by
  rw [List.find?_eq_none]
  intro entry member same
  rw [gathers.listed, named, gathers.results, List.map_map] at unknown
  exact unknown (List.mem_map.mpr ⟨entry, member, of_decide_eq_true same⟩)

/-- One more diagnostic: its result comes last, and its rule too where its id is new. -/
theorem Gathers.add (gathers : log.Gathers history) (diagnostic : Diagnostic)
    (source? : Option SourceFile) :
    (log.add diagnostic source?).Gathers (history ++ [(diagnostic, source?)]) := by
  have results : (log.add diagnostic source?).results =
      (history ++ [(diagnostic, source?)]).map fun (diagnostic, source?) =>
        diagnostic.sarifResult source? := by
    rw [SarifLog.add, gathers.results, List.map_append]
    rfl
  by_cases known : diagnostic.errorId ∈ log.ids
  · -- The rules stay as they are, and the new result names an id that was named before.
    have rules : (log.add diagnostic source?).rules = log.rules := addRule_of_mem known
    have ids : (log.add diagnostic source?).ids = log.ids :=
      congrArg (List.map SarifRule.id) rules
    refine ⟨results, ?_, fun id => ?_, ?_, fun rule listed => ?_⟩
    · rw [ids]
      exact gathers.distinct
    · rw [ids, named_add, List.mem_append, ← gathers.listed, List.mem_singleton]
      exact ⟨.inl, fun listed => listed.elim (fun listed => listed) fun same => same ▸ known⟩
    · rw [ids, named_add]
      exact gathers.ordered_append _
    · rw [rules] at listed
      exact gathers.first_append _ listed
  · -- No result names the id yet, so its first place is the new one, behind all the others.
    have rules : (log.add diagnostic source?).rules = log.rules ++ [diagnostic.sarifRule] :=
      addRule_of_not_mem known
    have ids : (log.add diagnostic source?).ids = log.ids ++ [diagnostic.errorId] := by
      rw [SarifLog.ids, rules, List.map_append]
      rfl
    have unnamed : diagnostic.errorId ∉ log.named := fun named =>
      known ((gathers.listed _).mpr named)
    refine ⟨results, ?_, fun id => ?_, ?_, fun rule listed => ?_⟩
    · rw [ids, ← List.concat_eq_append]
      exact gathers.distinct.concat known
    · rw [ids, named_add, List.mem_append, List.mem_append, gathers.listed]
    · rw [ids, named_add, List.pairwise_append]
      refine ⟨gathers.ordered_append _, List.pairwise_singleton .., fun left leftListed => ?_⟩
      rw [gathers.listed] at leftListed
      simp only [List.mem_singleton, forall_eq]
      rw [List.idxOf_append_of_mem leftListed, List.idxOf_append_of_notMem unnamed]
      exact Nat.lt_add_right _ (List.idxOf_lt_length_of_mem leftListed)
    · rw [rules, List.mem_append, List.mem_singleton] at listed
      rcases listed with listed | rfl
      · exact gathers.first_append _ listed
      · refine ⟨diagnostic, source?, ?_, diagnostic.describes_sarifRule⟩
        have new : history.find? (fun entry => entry.1.errorId = diagnostic.sarifRule.id) = none :=
          gathers.find?_eq_none known
        rw [List.find?_append, new, Option.none_or]
        exact List.find?_cons_of_pos (decide_eq_true rfl)

theorem runResults?_toJson (log : SarifLog) (tool version : String) :
    (log.toJson tool version).runResults? = some (log.results.map SarifResult.toJson) := rfl

theorem runRules?_toJson (log : SarifLog) (tool version : String) :
    (log.toJson tool version).runRules? = some (log.rules.map SarifRule.toJson) := rfl

end SarifLog

/-! ## Reporters -/

theorem Tally.total_record (tally : Tally) (severity : Severity) :
    (tally.record severity).total = tally.total + 1 := by
  cases severity <;> simp [total, record, Severity.all] <;> omega

namespace Reporter

/-- A reporter whose outputs tell of the same diagnostics: the numbers count them, the lines are
theirs, and the report holds them. -/
structure Agrees (reporter : Reporter) (format : OutputFormat) (log : SarifLog)
    (history : List Reported) : Prop where
  written : reporter.format = format
  total : reporter.tally.total = history.length
  counts : ∀ severity, reporter.tally.counts severity =
    history.countP fun (diagnostic, _) => diagnostic.severity = severity
  gcc : format = .gcc → reporter.output =
    String.join (history.map fun (diagnostic, _) => diagnostic.gccLine ++ "\n")
  json : format = .json → reporter.output =
    String.join (history.map fun (diagnostic, _) => diagnostic.jsonLine ++ "\n")
  gathered : reporter.sarif? = some log
  gathers : log.Gathers history

variable {reporter : Reporter} {format : OutputFormat} {log : SarifLog} {history : List Reported}

theorem fresh_agrees (format : OutputFormat) (coloured : Bool) (sources : Keyed SourceFile) :
    (fresh format coloured sources).Agrees format {} [] where
  written := rfl
  total := rfl
  counts _ := rfl
  gcc _ := rfl
  json _ := rfl
  gathered := rfl
  gathers := SarifLog.gathers_empty

theorem Agrees.afterSources (agrees : reporter.Agrees format log history) (sources : Keyed SourceFile) :
    (reporter.addSources sources).Agrees format log history :=
  { agrees with }

/-- One more diagnostic comes into all outputs. -/
theorem Agrees.afterReport (agrees : reporter.Agrees format log history) (diagnostic : Diagnostic) :
    ∃ log, (reporter.report diagnostic).Agrees format log
      (history ++ [reporter.withSource diagnostic]) := by
  refine ⟨log.add diagnostic (Keyed.get? diagnostic.location.file reporter.sources),
    agrees.written, ?_, ?_, ?_, ?_, ?_, agrees.gathers.add ..⟩
  · rw [report, Tally.total_record, agrees.total, List.length_append]
    rfl
  · intro severity
    rw [List.countP_append, ← agrees.counts]
    by_cases same : severity = diagnostic.severity <;>
      simp [report, Tally.record, withSource, same, eq_comm]
  · intro isGcc
    rw [report, agrees.written, agrees.gcc isGcc, isGcc, List.map_append, String.join_append]
    simp [Diagnostic.render, withSource]
  · intro isJson
    rw [report, agrees.written, agrees.json isJson, isJson, List.map_append, String.join_append]
    simp [Diagnostic.render, withSource]
  · rw [report, agrees.gathered]
    rfl

theorem Agrees.afterReports (agrees : reporter.Agrees format log history) (diagnostics : List Diagnostic) :
    ∃ log, (diagnostics.foldl report reporter).Agrees format log
      (history ++ diagnostics.map reporter.withSource) := by
  induction diagnostics generalizing reporter log history with
  | nil => exact ⟨log, by simpa using agrees⟩
  | cons diagnostic diagnostics inductionHypothesis =>
    obtain ⟨log, agrees⟩ := agrees.afterReport diagnostic
    obtain ⟨log, agrees⟩ := inductionHypothesis agrees
    -- A report leaves the sources as they are, so the rest finds the same ones.
    rw [← List.append_cons] at agrees
    exact ⟨log, agrees⟩

theorem Agrees.afterCall (agrees : reporter.Agrees format log history) (call : Call) :
    ∃ log, (reporter.answer call).Agrees format log (history ++ reporter.reported call) := by
  cases call with
  | report diagnostic => exact agrees.afterReport diagnostic
  | reportAll results => exact (agrees.afterSources results.sources).afterReports results.diagnostics

/-- All that a row of calls reports comes into all outputs. -/
theorem Agrees.afterRun (agrees : reporter.Agrees format log history) (calls : List Call) :
    ∃ log, (reporter.run calls).Agrees format log (history ++ reporter.history calls) := by
  induction calls generalizing reporter log history with
  | nil => exact ⟨log, by simpa [run, Reporter.history] using agrees⟩
  | cons call calls inductionHypothesis =>
    obtain ⟨log, agrees⟩ := agrees.afterCall call
    obtain ⟨log, agrees⟩ := inductionHypothesis agrees
    rw [List.append_assoc] at agrees
    exact ⟨log, agrees⟩

/-- In every run the numbers, the lines and the report of a reporter tell of the diagnostics of the
calls in their order, and the report is written from what was gathered. -/
theorem run_agrees (format : OutputFormat) (coloured : Bool) (sources : Keyed SourceFile)
    (calls : List Call) :
    ((fresh format coloured sources).history calls).map Prod.fst = calls.flatMap Call.diagnostics ∧
      ∃ log, ((fresh format coloured sources).run calls).Agrees format log
          ((fresh format coloured sources).history calls) ∧
        ∀ tool version,
          (log.toJson tool version).runResults? = some (log.results.map SarifResult.toJson) ∧
            (log.toJson tool version).runRules? = some (log.rules.map SarifRule.toJson) := by
  obtain ⟨log, agrees⟩ := (fresh_agrees format coloured sources).afterRun calls
  exact ⟨map_fst_history _ calls, log, agrees, fun tool version =>
    ⟨log.runResults?_toJson tool version, log.runRules?_toJson tool version⟩⟩

end Reporter
end DrainLint
