import DrainLint.Proofs.Checker.Contributions

/-! # What suppression does not hold back

What checkers put forward is held back where a rule says so.  What a run itself reports, that a file
does not parse or that a checker failed, never passes by the rules, and it is reported even if its id
is suppressed everywhere.

- `Runner.FaultReport`: the diagnostics that a run itself reports;
- `Runner.suppressed_mem_run_iff`: exactly these are found although they are suppressed;
- `Runner.run_reports_suppressed_unclosedFile`: a syntax error whose id is suppressed, and a checker
  that fails while the id of its failure is.
-/

namespace DrainLint.Runner

open Hir

variable {runner : Runner} {rules : Suppressions} {source : SourceFile} {diagnostic : Diagnostic}

/-- The diagnostics that a run itself reports of a file. -/
inductive FaultReport (runner : Runner) (source : SourceFile) : Diagnostic → Prop where
  | unparsed {error : ParseError} (failed : source.parse = .error error) :
      FaultReport runner source (syntaxError error)
  | failed {crate : Crate} {checker : Checker} {phase : Phase} {failure : String}
      (parsed : source.parse = .ok crate) (selected : checker ∈ runner.checkers)
      (fails : checker.FailsIn (runner.contextOf source crate) phase failure) :
      FaultReport runner source (internalError checker source failure)

theorem FaultReport.mem_run (report : runner.FaultReport source diagnostic) :
    diagnostic ∈ (runner.run rules source).results.diagnostics := by
  cases report with
  | unparsed failed => simp [run, failed]
  | @failed crate checker phase failure parsed selected fails =>
    rw [(run_putTogether parsed).diagnostics, List.mem_flatMap]
    refine ⟨checker, selected, ?_⟩
    rw [contributed_of_failsIn fails]
    exact List.mem_singleton_self _

/-- A suppressed diagnostic is found only if the run itself reports it. -/
theorem faultReport_of_suppressed
    (found : diagnostic ∈ (runner.run rules source).results.diagnostics)
    (suppressed : (runner.run rules source).suppressions.suppresses diagnostic = true) :
    runner.FaultReport source diagnostic := by
  cases parsed : source.parse with
  | error error =>
    simp only [run, parsed, List.mem_singleton] at found
    subst found
    exact .unparsed parsed
  | ok crate =>
    rw [(run_putTogether parsed).diagnostics, List.mem_flatMap] at found
    obtain ⟨checker, selected, contributes⟩ := found
    by_cases passes : checker.passes (runner.contextOf source crate)
    · rw [contributed_of_passes passes, Suppressions.kept, List.mem_filter] at contributes
      rw [run_suppressions parsed] at suppressed
      simp [suppressed] at contributes
    · obtain ⟨phase, failure, fails⟩ := Checker.exists_failsIn passes
      rw [contributed_of_failsIn fails, List.mem_singleton] at contributes
      subst contributes
      exact .failed parsed selected fails

/-- Exactly what the run itself reports is found although it is suppressed: every other diagnostic
that a rule covers, of a comment, an attribute, a pattern or for all files, is held back. -/
theorem suppressed_mem_run_iff (runner : Runner) (rules : Suppressions) (source : SourceFile)
    (diagnostic : Diagnostic) :
    (diagnostic ∈ (runner.run rules source).results.diagnostics ∧
      (runner.run rules source).suppressions.suppresses diagnostic = true) ↔
    (runner.FaultReport source diagnostic ∧
      (runner.run rules source).suppressions.suppresses diagnostic = true) := by
  constructor
  · rintro ⟨found, suppressed⟩
    exact ⟨faultReport_of_suppressed found suppressed, suppressed⟩
  · rintro ⟨report, suppressed⟩
    exact ⟨report.mem_run, suppressed⟩

theorem suppresses_of_everywhere (listed : diagnostic.errorId ∈ rules.everywhere) :
    rules.suppresses diagnostic = true := by
  simp [Suppressions.suppresses, Suppressions.suppressedEverywhere, Suppressions.covers, listed]

theorem run_everywhere : (runner.run rules source).suppressions.everywhere = rules.everywhere := by
  unfold run
  cases source.parse <;> rfl

/-- A file that ends in the middle of a function. -/
def unclosedFile : SourceFile := ⟨"unclosed.rs", "fn f(".toList⟩

def blankFile : SourceFile := ⟨"blank.rs", []⟩

def explodingRunner : Runner where
  registry := Registry.builtin.register .exploding

theorem failsIn_exploding (context : Context) :
    Checker.exploding.FailsIn context .collect "kaboom" where
  fails := by
    unfold Checker.perform
    split
    · contradiction
    · rfl
  reached earlier before := by
    rw [List.mem_singleton.mp before]
    rfl

/-- A syntax error is found although its id is suppressed everywhere, and so is the report of a
checker that failed. -/
theorem run_reports_suppressed_unclosedFile :
    (∃ diagnostic,
      diagnostic ∈
        (run {} (Suppressions.addEverywhere {} "syntaxError") unclosedFile).results.diagnostics ∧
      diagnostic.errorId = "syntaxError" ∧
      (run {} (Suppressions.addEverywhere {} "syntaxError") unclosedFile).suppressions.suppresses
        diagnostic = true) ∧
    (∃ diagnostic,
      diagnostic ∈ (explodingRunner.run (Suppressions.addEverywhere {} "checkerInternalError")
        blankFile).results.diagnostics ∧
      diagnostic.errorId = "checkerInternalError" ∧
      (explodingRunner.run (Suppressions.addEverywhere {} "checkerInternalError")
        blankFile).suppressions.suppresses diagnostic = true) := by
  have suppressed {runner : Runner} {source : SourceFile} {diagnostic : Diagnostic} {id : String}
      (named : diagnostic.errorId = id) :
      (runner.run (Suppressions.addEverywhere {} id) source).suppressions.suppresses diagnostic =
        true := by
    apply suppresses_of_everywhere
    rw [run_everywhere, named]
    exact List.mem_singleton_self id
  constructor
  · have unparsed : unclosedFile.crateNoted? = none := by decide +kernel
    cases failed : unclosedFile.parse with
    | ok crate =>
      rw [SourceFile.parse_eq_ok_iff, unparsed] at failed
      cases failed
    | error error =>
      exact ⟨syntaxError error, FaultReport.mem_run (.unparsed failed), rfl, suppressed rfl⟩
  · have evaluated : blankFile.crateNoted?.any (fun _ => true) = true := by decide +kernel
    obtain ⟨crate, parsed, _⟩ := SourceFile.parse_of_noted evaluated
    have selected : explodingRunner.checkers = [.drainLoop, .exploding] := rfl
    have report : explodingRunner.FaultReport blankFile
        (internalError .exploding blankFile "kaboom") :=
      .failed parsed (by simp [selected]) (failsIn_exploding _)
    exact ⟨_, report.mem_run, rfl, suppressed rfl⟩

end DrainLint.Runner
