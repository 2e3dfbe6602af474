import DrainLint.Proofs.Checker.Isolation
import Mathlib.Data.List.Basic

/-! # Rules accumulate

Rules are only ever added to.  What an operation adds holds the same diagnostics back whatever was
known before, so that the answer for a diagnostic goes one way, and an operation on a file has no
say in other files.

- `Suppressions.append`: the rules of both;
- `Suppressions.suppresses_append`: they hold back what either of them does;
- `Suppressions.Operation`: what is done to rules;
- `Suppressions.suppresses_performAll`: what operations hold back, each does by itself;
- `Suppressions.perform_holds_back`: an operation takes nothing back and keeps to its file;
- `Runner.rulesAfter_performs`: what a run does to the rules are operations on its files.
-/

namespace DrainLint

open Hir List

namespace Suppressions

/-! ## Rules side by side -/

/-- The rules of both. -/
def append (rules others : Suppressions) : Suppressions where
  comments := rules.comments ++ others.comments
  regions := rules.regions ++ others.regions
  fileAttrs := rules.fileAttrs ++ others.fileAttrs
  filePatterns := rules.filePatterns ++ others.filePatterns
  everywhere := rules.everywhere ++ others.everywhere

instance : Append Suppressions := ⟨append⟩

variable {rules others : Suppressions} {diagnostic : Diagnostic}

theorem append_def (rules others : Suppressions) : rules ++ others = rules.append others := rfl

theorem covers_append (ids more : List String) (id : String) :
    covers (ids ++ more) id = (covers ids id || covers more id) := by
  simp only [covers, List.contains_eq_any_beq, List.any_append]
  ac_rfl

theorem suppressedByAttribute_append (rules others : Suppressions) (diagnostic : Diagnostic) :
    (rules ++ others).suppressedByAttribute diagnostic =
      (rules.suppressedByAttribute diagnostic || others.suppressedByAttribute diagnostic) := by
  simp only [suppressedByAttribute, append_def, append, List.any_append]
  rw [← Bool.and_or_distrib_left]
  congr 1
  ac_rfl

/-- Rules side by side hold back what either of them does: every rule is asked by itself. -/
theorem suppresses_append (rules others : Suppressions) (diagnostic : Diagnostic) :
    (rules ++ others).suppresses diagnostic =
      (rules.suppresses diagnostic || others.suppresses diagnostic) := by
  have everywhere : (rules ++ others).suppressedEverywhere diagnostic =
      (rules.suppressedEverywhere diagnostic || others.suppressedEverywhere diagnostic) :=
    covers_append ..
  have byComment : (rules ++ others).suppressedByComment diagnostic =
      (rules.suppressedByComment diagnostic || others.suppressedByComment diagnostic) :=
    List.any_append
  have byPattern : (rules ++ others).suppressedByPattern diagnostic =
      (rules.suppressedByPattern diagnostic || others.suppressedByPattern diagnostic) :=
    List.any_append
  simp only [suppresses, everywhere, byComment, suppressedByAttribute_append, byPattern]
  ac_rfl

/-! ## Operations -/

/-- What is done to rules: the comments or the attributes of a file are read, or an id is held back
in the files of a pattern or everywhere. -/
inductive Operation where
  | comments (source : SourceFile)
  | attributes (name : String) (crate : Crate)
  | inFiles (id pattern : String)
  | everywhere (id : String)

/-- The rules after an operation. -/
def Operation.perform (rules : Suppressions) : Operation → Suppressions
  | comments source => rules.addComments source
  | attributes name crate => rules.addAttributes name crate
  | inFiles id pattern => rules.addPattern id pattern
  | everywhere id => rules.addEverywhere id

/-- The file whose comments or attributes are read; the other operations are about no one file. -/
def Operation.file? : Operation → Option String
  | comments source => some source.name
  | attributes name _ => some name
  | inFiles .. | everywhere _ => none

/-- The rules after some operations, one after the other. -/
def performAll (rules : Suppressions) (operations : List Operation) : Suppressions :=
  operations.foldl Operation.perform rules

/-- An operation adds rules that do not depend on those that are known. -/
theorem perform_eq_append (rules : Suppressions) (operation : Operation) :
    operation.perform rules = rules ++ operation.perform {} := by
  cases operation <;>
    simp [Operation.perform, addComments, addAttributes, addPattern, addEverywhere, append_def,
      append]

/-- What is held back after an operation was held back before, or is by what the operation adds. -/
theorem suppresses_perform_iff (operation : Operation) :
    (operation.perform rules).suppresses diagnostic = true ↔
      rules.suppresses diagnostic = true ∨
        (operation.perform {}).suppresses diagnostic = true := by
  rw [perform_eq_append, suppresses_append, Bool.or_eq_true]

/-- What is held back after some operations was held back before, or is by what one of them adds:
neither their order nor their number matters. -/
theorem suppresses_performAll (operations : List Operation) :
    (rules.performAll operations).suppresses diagnostic = true ↔
      rules.suppresses diagnostic = true ∨
        ∃ operation ∈ operations, (operation.perform {}).suppresses diagnostic = true := by
  induction operations generalizing rules with
  | nil => simp [performAll]
  | cons operation operations inductionHypothesis =>
    have later : (rules.performAll (operation :: operations)).suppresses diagnostic = true ↔
        (operation.perform rules).suppresses diagnostic = true ∨
          ∃ other ∈ operations, (other.perform {}).suppresses diagnostic = true :=
      inductionHypothesis
    rw [later, suppresses_perform_iff, or_assoc]
    simp only [List.mem_cons, or_and_right, exists_or, exists_eq_left]

/-- An operation on a file says nothing new about other files. -/
theorem sameIn_perform {operation : Operation} {name file : String}
    (about : operation.file? = some name) (other : name ≠ file) (rules : Suppressions) :
    SameIn file rules (operation.perform rules) := by
  cases operation with
  | comments source =>
    cases about
    exact sameIn_addComments other rules
  | attributes name crate =>
    cases about
    exact sameIn_addAttributes other rules crate
  | inFiles | everywhere => cases about

/-- In any state, an operation takes nothing back: what was held back before is held back after it,
and the diagnostics that are kept are some of those kept before, in the same order.  One that reads
the comments or the attributes of a file changes the answer in that file only. -/
theorem perform_holds_back (rules : Suppressions) (operation : Operation) :
    (∀ diagnostic, rules.suppresses diagnostic = true →
      (operation.perform rules).suppresses diagnostic = true) ∧
    (∀ diagnostics, (operation.perform rules).kept diagnostics <+ rules.kept diagnostics) ∧
    ∀ file, operation.file? = some file → ∀ diagnostic, diagnostic.location.file ≠ file →
      (operation.perform rules).suppresses diagnostic = rules.suppresses diagnostic := by
  have grows : ∀ diagnostic, rules.suppresses diagnostic = true →
      (operation.perform rules).suppresses diagnostic = true :=
    fun diagnostic held => (suppresses_perform_iff operation).mpr (.inl held)
  refine ⟨grows, fun diagnostics => ?_, fun file about diagnostic elsewhere => ?_⟩
  · -- What is kept after the operation cannot have been held back before it.
    apply List.monotone_filter_right
    intro diagnostic keeps
    have free : (operation.perform rules).suppresses diagnostic = false := by simpa using keeps
    cases held : rules.suppresses diagnostic with
    | false => rfl
    | true => simp [grows diagnostic held] at free
  · exact ((sameIn_perform about elsewhere.symm rules).suppresses rfl).symm

/-- A comment that holds `a` back in its file: what stood before stays, and other files have no part
in it. -/
theorem perform_holds_back_comment :
    let rules := addEverywhere {} "b"
    let operation := Operation.comments ⟨"m.rs", "// poplint-suppress a".toList⟩
    let found (id file : String) : Diagnostic :=
      { errorId := id, message := "", severity := .warning, location := { file, line := 2 } }
    (rules.suppresses (found "b" "m.rs") = true ∧
      (operation.perform rules).suppresses (found "b" "m.rs") = true) ∧
    (rules.suppresses (found "a" "m.rs") = false ∧
      (operation.perform rules).suppresses (found "a" "m.rs") = true) ∧
    (operation.perform rules).kept [found "a" "m.rs"] <+ rules.kept [found "a" "m.rs"] ∧
    (operation.file? = some "m.rs" ∧ (found "a" "n.rs").location.file ≠ "m.rs" ∧
      (operation.perform rules).suppresses (found "a" "n.rs") =
        rules.suppresses (found "a" "n.rs")) := by
  intro rules operation found
  obtain ⟨grows, keeps, isLocal⟩ := perform_holds_back rules operation
  have held : rules.suppresses (found "b" "m.rs") = true := by decide +kernel
  have elsewhere : (found "a" "n.rs").location.file ≠ "m.rs" := by decide +kernel
  exact ⟨⟨held, grows _ held⟩, ⟨by decide +kernel, by decide +kernel⟩, keeps _,
    rfl, elsewhere, isLocal "m.rs" rfl _ elsewhere⟩

end Suppressions

/-! ## Runs -/

namespace Runner

open Suppressions

variable {runner : Runner} {rules : Suppressions}

theorem performAll_append (rules : Suppressions) (first second : List Operation) :
    rules.performAll (first ++ second) = (rules.performAll first).performAll second :=
  List.foldl_append

/-- A run over a file reads its comments and attributes, or leaves the rules alone. -/
theorem runReading_performs (runner : Runner) (rules : Suppressions) (file : FileReading) :
    ∃ operations, (runner.runReading rules file).suppressions = rules.performAll operations ∧
      ∀ operation ∈ operations, operation.file? = some file.name := by
  unfold runReading
  cases file.content with
  | error reason => exact ⟨[], rfl, by simp⟩
  | ok text =>
    let source : SourceFile := ⟨file.name, text⟩
    cases parsed : source.parse with
    | error error => exact ⟨[], by simp [run, source, parsed, performAll], by simp⟩
    | ok crate =>
      refine ⟨[.comments source, .attributes source.name crate], run_suppressions parsed, ?_⟩
      simp [Operation.file?, source]

/-- What a run over files does to the rules are operations on these files. -/
theorem rulesAfter_performs (runner : Runner) (rules : Suppressions) (files : List FileReading) :
    ∃ operations, runner.rulesAfter rules files = rules.performAll operations ∧
      ∀ operation ∈ operations, ∃ file ∈ files, operation.file? = some file.name := by
  induction files generalizing rules with
  | nil => exact ⟨[], rfl, by simp⟩
  | cons file files inductionHypothesis =>
    obtain ⟨here, known, own⟩ := runReading_performs runner rules file
    obtain ⟨later, after, others⟩ :=
      inductionHypothesis (runner.runReading rules file).suppressions
    have step : runner.rulesAfter rules (file :: files) =
        runner.rulesAfter (runner.runReading rules file).suppressions files :=
      runAll_suppressions
        ((⟨{}, rules, []⟩ : RunOutcome).andThen fun rules => runner.runReading rules file) files
    refine ⟨here ++ later, ?_, fun operation member => ?_⟩
    · rw [step, after, known, performAll_append]
    · obtain first | second := List.mem_append.mp member
      · exact ⟨file, List.mem_cons_self, own operation first⟩
      · obtain ⟨other, listed, about⟩ := others operation second
        exact ⟨other, List.mem_cons_of_mem _ listed, about⟩

/-- A run over files takes nothing back: what was held back before it is held back after it. -/
theorem rulesAfter_suppresses {diagnostic : Diagnostic} (files : List FileReading)
    (held : rules.suppresses diagnostic = true) :
    (runner.rulesAfter rules files).suppresses diagnostic = true := by
  obtain ⟨operations, performed, _⟩ := rulesAfter_performs runner rules files
  rw [performed]
  exact (suppresses_performAll operations).mpr (.inl held)

end Runner
end DrainLint
