import DrainLint.Proofs.Checker.Contributions
import DrainLint.Proofs.Fix.Landing

/-! # Findings and diagnostics

What a run with the checkers of the program tells of a file that parses are the loops that are found
in it and are not suppressed, and nothing else but that a checker failed.

- `Runner.eq_drainLoop_of_mem_checkers`: there is only the checker of drain loops;
- `Runner.finding_or_failure_of_mem_run`: what is told is a finding or the failure of a checker;
- `Runner.mem_run_of_found`: a loop that is found is told, unless it is suppressed.
-/

namespace DrainLint

open Hir Lint

namespace Checker.DrainLoop

/-- The fix of a loop that is found in a file that parses can be put forward. -/
theorem exists_diagnosticOf {context : Context} {header : Span} {finding : Finding}
    (parsed : context.source.parse = .ok context.crate)
    (found : (header, .found finding) ∈
      examineAll context.inference.tables.resolver context.crate) :
    ∃ diagnostic, diagnosticOf context finding = .ok diagnostic := by
  obtain ⟨node, listed, examined⟩ := List.mem_filterMap.mp found
  unfold examineLoop? at examined
  split at examined
  · simp only [Option.some.injEq, Prod.mk.injEq] at examined
    obtain ⟨suggestion, fixed, _⟩ := ((examine_describes examined.2).lands parsed listed).fixed
    cases asked : context.options.suggestions with
    | true => exact ⟨_, by simp only [diagnosticOf, asked, if_true, fixed]; rfl⟩
    | false => exact ⟨_, by simp only [diagnosticOf, asked]; rfl⟩
  · cases examined

theorem diagnose_of_ok {context : Context} {findings : List Finding}
    (told : ∀ finding ∈ findings, ∃ diagnostic, diagnosticOf context finding = .ok diagnostic) :
    (diagnose context findings).2 = none ∧ ∀ finding ∈ findings, ∀ diagnostic,
      diagnosticOf context finding = .ok diagnostic → diagnostic ∈ (diagnose context findings).1 := by
  induction findings with
  | nil => exact ⟨rfl, by simp⟩
  | cons first findings inductionHypothesis =>
    obtain ⟨tellsFirst, tellsRest⟩ := List.forall_mem_cons.mp told
    obtain ⟨diagnostic, made⟩ := tellsFirst
    obtain ⟨faultless, listed⟩ := inductionHypothesis tellsRest
    simp only [diagnose, made, faultless, List.mem_cons, true_and]
    rintro finding (rfl | member) diagnostic' made'
    · rw [made] at made'
      cases made'
      exact .inl rfl
    · exact .inr (listed finding member diagnostic' made')

end Checker.DrainLoop

namespace Checker

variable {context : Context}

/-- What the checker of drain loops puts forward is the diagnostic of a loop that it found. -/
theorem exists_finding_of_mem_drainLoop {diagnostic : Diagnostic}
    (emitted : diagnostic ∈ (drainLoop.examine context).emitted) :
    ∃ header finding,
      (header, .found finding) ∈ examineAll context.inference.tables.resolver context.crate ∧
      DrainLoop.diagnosticOf context finding = .ok diagnostic := by
  obtain ⟨phase, emitted⟩ := exists_phase_of_mem_examine emitted
  unfold perform at emitted
  split at emitted
  · cases emitted
  · exact DrainLoop.exists_of_mem_work emitted

theorem perform_drainLoop (faultless : context.inference.fault? = none) (phase : Phase) :
    drainLoop.perform context phase = DrainLoop.work context phase := by
  unfold perform
  rw [faultless]
  split
  · contradiction
  · rfl

/-- The checker of drain loops does not fail where the types are inferred, and puts forward every
loop that it finds. -/
theorem passes_drainLoop (parsed : context.source.parse = .ok context.crate)
    (faultless : context.inference.fault? = none) :
    drainLoop.passes context ∧ ∀ header finding diagnostic,
      (header, .found finding) ∈ examineAll context.inference.tables.resolver context.crate →
      DrainLoop.diagnosticOf context finding = .ok diagnostic →
      diagnostic ∈ (drainLoop.perform context .diagnose).emitted := by
  have told : ∀ finding ∈ (examineAll context.inference.tables.resolver context.crate).filterMap
      (·.2.finding?), ∃ diagnostic, DrainLoop.diagnosticOf context finding = .ok diagnostic := by
    intro finding member
    obtain ⟨⟨header, verdict⟩, examined, isFinding⟩ := List.mem_filterMap.mp member
    cases verdict <;> cases isFinding
    exact DrainLoop.exists_diagnosticOf parsed examined
  obtain ⟨passed, listed⟩ := DrainLoop.diagnose_of_ok told
  constructor
  · rw [passes, List.all_eq_true]
    intro phase _
    rw [perform_drainLoop faultless]
    cases phase with
    | diagnose => exact Option.isNone_iff_eq_none.mpr passed
    | configure | collect | report => rfl
  · intro header finding diagnostic examined made
    rw [perform_drainLoop faultless]
    exact listed finding (List.mem_filterMap.mpr ⟨_, examined, rfl⟩) diagnostic made

end Checker

namespace Runner

variable {runner : Runner} {rules : Suppressions} {source : SourceFile} {crate : Crate}
  {diagnostic : Diagnostic}

theorem eq_drainLoop_of_mem_checkers (builtin : runner.registry = .builtin) {checker : Checker}
    (selected : checker ∈ runner.checkers) : checker = .drainLoop := by
  have only : Registry.builtin.checkers = [(Checker.drainLoop.name, Checker.drainLoop)] := rfl
  unfold checkers at selected
  split at selected
  · obtain ⟨entry, listed, rfl⟩ := List.mem_map.mp selected
    have known := List.mem_of_mem_filter listed
    rw [builtin, only, List.mem_singleton] at known
    rw [known]
  · obtain ⟨name, _, found⟩ := List.mem_filterMap.mp selected
    simp only [Runner.selected] at found
    split at found
    · rename_i checker known
      cases found
      have listed := mem_of_lookup known
      rw [builtin, only, List.mem_singleton] at listed
      cases listed
      rfl
    · cases found

/-- What a run tells of a file that parses is a finding that is not suppressed, or that the checker
failed. -/
theorem finding_or_failure_of_mem_run (builtin : runner.registry = .builtin)
    (parsed : source.parse = .ok crate)
    (told : diagnostic ∈ (runner.run rules source).results.diagnostics) :
    (∃ header finding,
      (header, .found finding) ∈ examineAll (Typing.inferCrate crate).tables.resolver crate ∧
      Checker.DrainLoop.diagnosticOf (runner.contextOf source crate) finding = .ok diagnostic ∧
      (rules.ofFile source crate).suppresses diagnostic = false) ∨
    ∃ failure, diagnostic = internalError .drainLoop source failure := by
  rw [(run_putTogether parsed).diagnostics, List.mem_flatMap] at told
  obtain ⟨checker, selected, contributes⟩ := told
  rw [eq_drainLoop_of_mem_checkers builtin selected, contributed, contribution] at contributes
  split at contributes
  · obtain ⟨emitted, kept⟩ := List.mem_filter.mp contributes
    obtain ⟨header, finding, found, made⟩ := Checker.exists_finding_of_mem_drainLoop emitted
    exact .inl ⟨header, finding, found, made, by simpa using kept⟩
  · exact .inr ⟨_, List.mem_singleton.mp contributes⟩

/-- Every loop that is found is told, unless it is suppressed. -/
theorem mem_run_of_found (selected : .drainLoop ∈ runner.checkers)
    (parsed : source.parse = .ok crate) (faultless : (Typing.inferCrate crate).fault? = none)
    {header : Span} {finding : Finding}
    (found : (header, .found finding) ∈
      examineAll (Typing.inferCrate crate).tables.resolver crate) :
    ∃ diagnostic,
      Checker.DrainLoop.diagnosticOf (runner.contextOf source crate) finding = .ok diagnostic ∧
      ((rules.ofFile source crate).suppresses diagnostic = false →
        diagnostic ∈ (runner.run rules source).results.diagnostics) := by
  have inContext : (runner.contextOf source crate).source.parse =
      .ok (runner.contextOf source crate).crate := parsed
  obtain ⟨diagnostic, made⟩ := Checker.DrainLoop.exists_diagnosticOf inContext found
  refine ⟨diagnostic, made, fun free => ?_⟩
  obtain ⟨passes, emits⟩ := Checker.passes_drainLoop inContext faultless
  rw [(run_putTogether parsed).diagnostics, List.mem_flatMap]
  refine ⟨_, selected, ?_⟩
  rw [contributed_of_passes passes, Suppressions.kept, List.mem_filter]
  exact ⟨List.mem_flatMap.mpr ⟨.diagnose, by decide, emits _ _ _ found made⟩, by simp [free]⟩

end Runner
end DrainLint
