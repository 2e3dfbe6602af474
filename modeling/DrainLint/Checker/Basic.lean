import DrainLint.Keyed
import DrainLint.Log
import DrainLint.Suppression
import DrainLint.Typing.Infer

/-! # Checkers

A checker looks at one parsed file and puts forward diagnostics.  It goes through four phases, and
it may fail in any of them.

- `Context`: what a checker sees;
- `Phase`: the phases of a checker;
- `Checking`: what came of a checker on a file;
- `Checker`: a checker;
- `Checker.examine`: a checker on a file, through all its phases;
- `Checker.StaysInFile`: a checker that tells only of the file that it looks at.
-/

namespace DrainLint

open Hir Typing

/-- The options that checkers read. -/
structure CheckOptions where
  suggestions : Bool := true

/-- What a checker sees of a file: the text, the crate and what the inference says about it. -/
structure Context where
  source : SourceFile
  crate : Crate
  inference : Inference
  options : CheckOptions := {}

/-- The phases of a checker: it reads its options, gathers what it finds, turns that into
diagnostics and reports those that are not suppressed. -/
inductive Phase where
  | configure
  | collect
  | diagnose
  | report
  deriving DecidableEq

/-- The phases in the order in which a checker goes through them. -/
def Phase.all : List Phase := [.configure, .collect, .diagnose, .report]

/-- What came of a checker on a file, or of a phase of it: the diagnostics that it put forward, in
order, and why it failed, if it did; the statistics that it counted and what it told the log. -/
structure Checking where
  emitted : List Diagnostic := []
  failure? : Option String := none
  stats : Keyed Nat := []
  log : List LogRecord := []

/-- What came of some phases and of the next one, which is not reached if they failed. -/
def Checking.andThen (done next : Checking) : Checking :=
  match done.failure? with
  | some _ => done
  | none =>
    { emitted := done.emitted ++ next.emitted, failure? := next.failure?
      stats := done.stats ++ next.stats, log := done.log ++ next.log }

/-- A checker.  The name tells it from the others and the implementation is what it is called in the
program; the error ids are those that it can put forward.  A checker that reads types does so when
it collects, and fails there on a file whose types cannot be inferred.  Statistics are shared by the
checkers of a run, but none of them reads what is counted.  What a checker puts forward may stand in
any file. -/
structure Checker where
  name : String
  implementation : String
  description : String
  errorIds : List String
  severity : Severity
  lint : String
  readsTypes : Bool
  work : Context → Phase → Checking

namespace Checker

/-- A phase of a checker. -/
def perform (checker : Checker) (context : Context) (phase : Phase) : Checking :=
  match phase, checker.readsTypes, context.inference.fault? with
  | .collect, true, some fault => { failure? := some fault.message }
  | _, _, _ => checker.work context phase

/-- A checker on a file: one phase after the other, up to the first that fails. -/
def examine (checker : Checker) (context : Context) : Checking :=
  Phase.all.foldl (fun done phase => done.andThen (checker.perform context phase)) {}

theorem mem_work_of_mem_perform {checker : Checker} {context : Context} {phase : Phase}
    {diagnostic : Diagnostic} (emitted : diagnostic ∈ (checker.perform context phase).emitted) :
    diagnostic ∈ (checker.work context phase).emitted := by
  unfold perform at emitted
  split at emitted
  · cases emitted
  · exact emitted

end Checker

theorem Checking.mem_andThen {done next : Checking} {diagnostic : Diagnostic}
    (emitted : diagnostic ∈ (done.andThen next).emitted) :
    diagnostic ∈ done.emitted ∨ diagnostic ∈ next.emitted := by
  unfold andThen at emitted
  split at emitted
  · exact .inl emitted
  · exact List.mem_append.mp emitted

namespace Checker

/-- What a checker put forward on a file it put forward in one of its phases. -/
theorem exists_phase_of_mem_examine {checker : Checker} {context : Context}
    {diagnostic : Diagnostic} (emitted : diagnostic ∈ (checker.examine context).emitted) :
    ∃ phase, diagnostic ∈ (checker.perform context phase).emitted := by
  have passing (phases : List Phase) : ∀ done : Checking,
      diagnostic ∈ (phases.foldl
        (fun done phase => done.andThen (checker.perform context phase)) done).emitted →
      diagnostic ∈ done.emitted ∨ ∃ phase, diagnostic ∈ (checker.perform context phase).emitted := by
    induction phases with
    | nil => exact fun _ => .inl
    | cons phase phases inductionHypothesis =>
      intro done emitted
      rcases inductionHypothesis _ emitted with emitted | later
      · exact (Checking.mem_andThen emitted).imp_right fun emitted => ⟨phase, emitted⟩
      · exact .inr later
  exact (passing Phase.all {} emitted).resolve_left (by simp)

/-- A checker that puts forward only what stands in the file that it looks at. -/
def StaysInFile (checker : Checker) : Prop :=
  ∀ context phase, ∀ diagnostic ∈ (checker.work context phase).emitted,
    diagnostic.location.file = context.source.name

def shown (checker : Checker) : String := s!"<{checker.implementation} '{checker.name}'>"

def diagnostic (checkerName lint errorId message : String) (severity : Severity)
    (source : SourceFile) (span : Span) : Diagnostic :=
  { errorId, message, severity, location := source.location span, span? := some span, checkerName,
    lint }

end Checker
end DrainLint
