import DrainLint.Checker.Basic

/-! # The checker of drain loops

Every `while` loop of a file is examined, wherever it stands.  A loop that drains a vector by hand
gives a diagnostic at the place where it pops, with the header as its other span and with the fix of
the loop, unless fixes are not asked for.
-/

namespace DrainLint.Checker

open Lint

namespace DrainLoop

def name : String := "while-pop-unwrap"

def severity : Severity := .style

def loopLog (source : SourceFile) (header : Span) (verdict : Verdict) : List LogRecord :=
  match verdict with
  | .found finding =>
    [⟨.debug, .checkers, s!"{source.name}: candidate at {(source.location finding.popSpan).text}"⟩]
  | verdict => match verdict.reason? with
    | some reason => [⟨.debug, .lint, s!"loop at {header.text}: {reason}"⟩]
    | none => []

def diagnosticOf (context : Context) (finding : Finding) : Except Overlap Diagnostic := do
  let suggestion? ←
    if context.options.suggestions then some <$> finding.fix context.source else pure none
  return { Checker.diagnostic name lintName "whilePopUnwrap" message severity context.source
      finding.popSpan with
    suggestion?, secondary := [(finding.loopSpan, headerLabel)] }

/-- The diagnostics of loops up to the first that has none, and why that one has none. -/
def diagnose (context : Context) : List Finding → List Diagnostic × Option String
  | [] => ([], none)
  | finding :: findings =>
    match diagnosticOf context finding with
    | .error overlap => ([], some overlap.line)
    | .ok diagnostic =>
      let (diagnostics, failure?) := diagnose context findings
      (diagnostic :: diagnostics, failure?)

/-- The diagnostic of a loop, which says the same with and without a fix. -/
theorem diagnosticOf_eq {context : Context} {finding : Finding} {diagnostic : Diagnostic}
    (made : diagnosticOf context finding = .ok diagnostic) :
    ∃ suggestion?, diagnostic =
      { Checker.diagnostic name lintName "whilePopUnwrap" message severity context.source
          finding.popSpan with
        suggestion?, secondary := [(finding.loopSpan, headerLabel)] } := by
  unfold diagnosticOf at made
  split at made
  · cases fixed : finding.fix context.source with
    | error overlap =>
      rw [fixed] at made
      cases made
    | ok suggestion =>
      rw [fixed] at made
      cases made
      exact ⟨_, rfl⟩
  · cases made
    exact ⟨_, rfl⟩

/-- Every diagnostic is that of a loop. -/
theorem exists_of_mem_diagnose {context : Context} {findings : List Finding}
    {diagnostic : Diagnostic} (told : diagnostic ∈ (diagnose context findings).1) :
    ∃ finding ∈ findings, diagnosticOf context finding = .ok diagnostic := by
  induction findings with
  | nil => cases told
  | cons finding findings inductionHypothesis =>
    rw [diagnose] at told
    cases made : diagnosticOf context finding with
    | error overlap => simp [made] at told
    | ok first =>
      simp only [made, List.mem_cons] at told
      rcases told with rfl | later
      · exact ⟨finding, List.mem_cons_self, made⟩
      · obtain ⟨finding, listed, made⟩ := inductionHypothesis later
        exact ⟨finding, List.mem_cons_of_mem _ listed, made⟩

/-- The loops of a file are examined when the checker collects, and told when it diagnoses. -/
def work (context : Context) (phase : Phase) : Checking :=
  let verdicts := examineAll context.inference.tables.resolver context.crate
  match phase with
  | .collect =>
    { stats := [(name ++ "_loops", verdicts.length)]
      log := verdicts.flatMap fun (header, verdict) => loopLog context.source header verdict }
  | .diagnose =>
    let (emitted, failure?) :=
      diagnose context (verdicts.filterMap fun (_, verdict) => verdict.finding?)
    { emitted, failure? }
  | .configure | .report => {}

/-- What is put forward on a file is the diagnostic of a loop that was found there. -/
theorem exists_of_mem_work {context : Context} {phase : Phase} {diagnostic : Diagnostic}
    (told : diagnostic ∈ (work context phase).emitted) :
    ∃ header finding,
      (header, .found finding) ∈ examineAll context.inference.tables.resolver context.crate ∧
      diagnosticOf context finding = .ok diagnostic := by
  cases phase with
  | diagnose =>
    obtain ⟨finding, listed, made⟩ := exists_of_mem_diagnose told
    obtain ⟨⟨header, verdict⟩, examined, isFinding⟩ := List.mem_filterMap.mp listed
    cases verdict <;> cases isFinding
    exact ⟨header, finding, examined, made⟩
  | configure | collect | report => cases told

end DrainLoop

def drainLoop : Checker where
  name := DrainLoop.name
  implementation := "WhilePopUnwrapChecker"
  description := "Vec drained by `pop().unwrap()` under `!is_empty()`"
  errorIds := ["whilePopUnwrap"]
  severity := DrainLoop.severity
  lint := lintName
  readsTypes := true
  work := DrainLoop.work

theorem drainLoop_staysInFile : drainLoop.StaysInFile := by
  intro context phase diagnostic told
  obtain ⟨_, _, _, made⟩ := DrainLoop.exists_of_mem_work told
  obtain ⟨_, rfl⟩ := DrainLoop.diagnosticOf_eq made
  rfl

end DrainLint.Checker
