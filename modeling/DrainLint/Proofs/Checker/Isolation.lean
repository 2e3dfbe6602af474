import DrainLint.Checker.Runner
import DrainLint.Proofs.Checker.Contributions
import Mathlib.Data.List.Nodup

/-! # Files apart from each other

What a run finds in a file depends on the suppressions that are known for that file and for all
files, and a run adds to those of its own file only.  So files do not influence each other, and a
run over many files is put together from runs over parts of them, as long as no checker tells of one
of the files when it looks at another: that would be held back only once the other file is known.

- `Suppressions.SameIn`: rules that say the same about a file;
- `Suppressions.kept_same`: they hold back the same diagnostics in it;
- `Checker.KeepsApart`: a checker that tells of no file when it looks at another one of them;
- `Suppressions.SameFor`: rules that say the same about what is told by a look at a file;
- `Runner.runReading_same`: a run over a file under such rules;
- `Runner.runAll_results`: a run over many files, merged into what came before;
- `Runner.runAll_splits`: each file as if it were alone, however the list is cut;
- `Runner.runAll_mixes_pointing`: a checker that does not keep the files apart.
-/

namespace DrainLint

open Hir

namespace Suppressions

/-- Rules that say the same about a file, in whatever order and however often. -/
structure SameIn (file : String) (rules others : Suppressions) : Prop where
  comments : ∀ entry, entry.1.1 = file → (entry ∈ rules.comments ↔ entry ∈ others.comments)
  regions : ∀ entry, entry.1 = file → (entry ∈ rules.regions ↔ entry ∈ others.regions)
  fileAttrs : ∀ entry, entry.1 = file → (entry ∈ rules.fileAttrs ↔ entry ∈ others.fileAttrs)
  filePatterns : rules.filePatterns = others.filePatterns
  everywhere : rules.everywhere = others.everywhere

theorem SameIn.refl (file : String) (rules : Suppressions) : SameIn file rules rules :=
  ⟨fun _ _ => .rfl, fun _ _ => .rfl, fun _ _ => .rfl, rfl, rfl⟩

/-- What is asked of the entries of one key is told by these entries. -/
theorem any_eq_of_mem_iff {α : Type} {entries others : List α} {keyed : α → Prop}
    {wanted : α → Bool} (key : ∀ entry, wanted entry = true → keyed entry)
    (same : ∀ entry, keyed entry → (entry ∈ entries ↔ entry ∈ others)) :
    entries.any wanted = others.any wanted := by
  rw [Bool.eq_iff_iff, List.any_eq_true, List.any_eq_true]
  constructor
  · rintro ⟨entry, member, asked⟩
    exact ⟨entry, (same entry (key entry asked)).mp member, asked⟩
  · rintro ⟨entry, member, asked⟩
    exact ⟨entry, (same entry (key entry asked)).mpr member, asked⟩

namespace SameIn

variable {file : String} {rules others : Suppressions} {source : SourceFile} {crate : Crate}

theorem trans {third : Suppressions} (first : SameIn file rules others)
    (second : SameIn file others third) : SameIn file rules third where
  comments entry own := (first.comments entry own).trans (second.comments entry own)
  regions entry own := (first.regions entry own).trans (second.regions entry own)
  fileAttrs entry own := (first.fileAttrs entry own).trans (second.fileAttrs entry own)
  filePatterns := first.filePatterns.trans second.filePatterns
  everywhere := first.everywhere.trans second.everywhere

theorem suppresses (same : SameIn file rules others) {diagnostic : Diagnostic}
    (inFile : diagnostic.location.file = file) :
    rules.suppresses diagnostic = others.suppresses diagnostic := by
  subst inFile
  have byComment : rules.suppressedByComment diagnostic = others.suppressedByComment diagnostic :=
    any_eq_of_mem_iff (fun _ asked => by
      simp only [Bool.and_eq_true, beq_iff_eq] at asked
      exact asked.1.1) same.comments
  have byAttribute :
      rules.suppressedByAttribute diagnostic = others.suppressedByAttribute diagnostic := by
    unfold suppressedByAttribute
    congr 2
    · refine any_eq_of_mem_iff (fun _ asked => ?_) same.fileAttrs
      simp only [Bool.and_eq_true, beq_iff_eq] at asked
      exact asked.1
    · refine any_eq_of_mem_iff (fun _ asked => ?_) same.regions
      simp only [Bool.and_eq_true, beq_iff_eq] at asked
      exact asked.1.1
  simp only [Suppressions.suppresses, suppressedEverywhere, suppressedByPattern, byComment,
    byAttribute, same.filePatterns, same.everywhere]

/-- What a file adds to rules that say the same about a file keeps them so. -/
theorem ofFile (same : SameIn file rules others) :
    SameIn file (rules.ofFile source crate) (others.ofFile source crate) where
  comments entry own := by
    simp only [Suppressions.ofFile, addAttributes, addComments, List.mem_append,
      same.comments entry own]
  regions entry own := by
    simp only [Suppressions.ofFile, addAttributes, addComments, List.mem_append,
      same.regions entry own]
  fileAttrs entry own := by
    simp only [Suppressions.ofFile, addAttributes, addComments, List.mem_append,
      same.fileAttrs entry own]
  filePatterns := same.filePatterns
  everywhere := same.everywhere

end SameIn

theorem kept_same {rules others : Suppressions} {diagnostics : List Diagnostic}
    (same : ∀ diagnostic ∈ diagnostics, SameIn diagnostic.location.file rules others) :
    rules.kept diagnostics = others.kept diagnostics := by
  apply List.filter_congr
  intro diagnostic member
  rw [(same diagnostic member).suppresses rfl]

theorem mem_commentsOf_name {source : SourceFile} {entry : (String × Nat) × List String}
    (member : entry ∈ commentsOf source) : entry.1.1 = source.name := by
  obtain ⟨index, _, found⟩ := List.mem_filterMap.mp member
  obtain ⟨ids, _, rfl⟩ := Option.map_eq_some_iff.mp found
  rfl

/-- The comments of a file say nothing about other files. -/
theorem sameIn_addComments {file : String} {source : SourceFile} (other : source.name ≠ file)
    (rules : Suppressions) : SameIn file rules (rules.addComments source) := by
  refine ⟨fun entry own => ?_, fun _ _ => .rfl, fun _ _ => .rfl, rfl, rfl⟩
  have foreign : entry ∉ commentsOf source := fun member =>
    other ((mem_commentsOf_name member).symm.trans own)
  simp [addComments, foreign]

/-- Neither do its attributes. -/
theorem sameIn_addAttributes {file name : String} (other : name ≠ file) (rules : Suppressions)
    (crate : Crate) : SameIn file rules (rules.addAttributes name crate) := by
  refine ⟨fun _ _ => .rfl, fun entry own => ?_, fun entry own => ?_, rfl, rfl⟩
  · simp [addAttributes, Prod.ext_iff, own, other]
  · simp [addAttributes, Prod.ext_iff, own, other]

/-- A file adds nothing to what is known about other files. -/
theorem sameIn_ofFile {file : String} {source : SourceFile} (other : source.name ≠ file)
    (rules : Suppressions) (crate : Crate) : SameIn file rules (rules.ofFile source crate) :=
  (sameIn_addComments other rules).trans (sameIn_addAttributes other _ crate)

/-- A file that is looked at again adds nothing that is not known. -/
theorem sameIn_ofFile_again (file : String) (rules : Suppressions) (source : SourceFile)
    (crate : Crate) :
    SameIn file (rules.ofFile source crate) ((rules.ofFile source crate).ofFile source crate) where
  comments entry _ := by simp [ofFile, addAttributes, addComments]
  regions entry _ := by simp [ofFile, addAttributes, addComments]
  fileAttrs entry _ := by simp [ofFile, addAttributes, addComments]
  filePatterns := rfl
  everywhere := rfl

end Suppressions

theorem SourceFile.file_of_parse_error {source : SourceFile} {error : ParseError}
    (failed : source.parse = .error error) : error.location.file = source.name := by
  unfold parse at failed
  simp only at failed
  split at failed
  · cases failed
    rfl
  · split at failed
    · split at failed
      · cases failed
      · cases failed
        rfl
    · cases failed
      rfl

/-! ## Checkers that keep files apart -/

namespace Checker

/-- A checker that keeps some files apart: when it looks at one of them it tells of no other one.  It
may tell of what is none of them. -/
def KeepsApart (checker : Checker) (names : List String) : Prop :=
  ∀ context phase, context.source.name ∈ names →
    ∀ diagnostic ∈ (checker.work context phase).emitted,
      diagnostic.location.file ∈ names → diagnostic.location.file = context.source.name

theorem StaysInFile.keepsApart {checker : Checker} (stays : checker.StaysInFile)
    (names : List String) : checker.KeepsApart names :=
  fun context phase _ diagnostic emitted _ => stays context phase diagnostic emitted

theorem KeepsApart.of_mem_examine {checker : Checker} {names : List String}
    (apart : checker.KeepsApart names) {context : Context} (listed : context.source.name ∈ names)
    {diagnostic : Diagnostic} (emitted : diagnostic ∈ (checker.examine context).emitted)
    (among : diagnostic.location.file ∈ names) :
    diagnostic.location.file = context.source.name :=
  have ⟨phase, emitted⟩ := exists_phase_of_mem_examine emitted
  apart context phase listed diagnostic (mem_work_of_mem_perform emitted) among

end Checker

/-- Rules that say the same about all that may be told by a look at one of some files, by checkers
that keep them apart: about this file, and about whatever is none of them. -/
def Suppressions.SameFor (names : List String) (own : String) (rules others : Suppressions) : Prop :=
  ∀ file, (file ∈ names → file = own) → SameIn file rules others

namespace Runner

open Suppressions

variable {runner : Runner} {rules others : Suppressions} {file : FileReading} {names : List String}

/-- A runner all of whose checkers keep some files apart. -/
def KeepsApart (runner : Runner) (names : List String) : Prop :=
  ∀ checker ∈ runner.checkers, checker.KeepsApart names

/-! ## One file -/

/-- A run over a file finds the same under rules that say the same for it once those of the file
are added. -/
theorem run_same_of_ofFile {source : SourceFile} (apart : runner.KeepsApart names)
    (listed : source.name ∈ names)
    (same : ∀ crate, source.parse = .ok crate →
      SameFor names source.name (rules.ofFile source crate) (others.ofFile source crate)) :
    (runner.run rules source).results = (runner.run others source).results := by
  unfold run
  cases parsed : source.parse with
  | error error => rfl
  | ok crate =>
    have contributions (checker : Checker) (selected : checker ∈ runner.checkers) :
        contribution (rules.ofFile source crate) source checker
            (checker.examine ⟨source, crate, Typing.inferCrate crate, runner.options⟩) =
          contribution (others.ofFile source crate) source checker
            (checker.examine ⟨source, crate, Typing.inferCrate crate, runner.options⟩) := by
      unfold contribution
      split
      · exact kept_same fun diagnostic emitted => same crate parsed _
          ((apart checker selected).of_mem_examine listed emitted)
      · rfl
    simp only [List.foldl_map]
    refine List.foldl_ext _ _ _ fun results checker selected => ?_
    simp only [addChecking, contributions checker selected]

/-- A run over a file finds the same under rules that say the same for it. -/
theorem runReading_same (apart : runner.KeepsApart names) (listed : file.name ∈ names)
    (same : SameFor names file.name rules others) :
    (runner.runReading rules file).results = (runner.runReading others file).results := by
  unfold runReading
  split
  · rfl
  · exact run_same_of_ofFile apart listed fun _ _ name own => (same name own).ofFile

/-- A run over a file learns nothing about other files. -/
theorem sameIn_runReading {name : String} (other : file.name ≠ name) :
    SameIn name rules (runner.runReading rules file).suppressions := by
  unfold runReading
  split
  · exact .refl _ _
  · simp only [run]
    split
    · exact .refl _ _
    · exact sameIn_ofFile other _ _

theorem runReading_keeps_same {name : String} (same : SameIn name rules others) :
    SameIn name (runner.runReading rules file).suppressions
      (runner.runReading others file).suppressions := by
  unfold runReading
  split
  · exact same
  · simp only [run]
    split
    · exact same
    · exact same.ofFile

/-- A file that is run again is found to be what it was found to be before. -/
theorem runReading_again (apart : runner.KeepsApart names) (listed : file.name ∈ names)
    (rules : Suppressions) :
    (runner.runReading (runner.runReading rules file).suppressions file).results =
      (runner.runReading rules file).results := by
  unfold runReading
  cases file.content with
  | error reason => rfl
  | ok text =>
    let source : SourceFile := ⟨file.name, text⟩
    change (runner.run (runner.run rules source).suppressions source).results =
      (runner.run rules source).results
    cases parsed : source.parse with
    | error error => simp [run, parsed]
    | ok crate =>
      rw [run_suppressions parsed]
      refine (run_same_of_ofFile apart listed fun other again name _ => ?_).symm
      rw [parsed] at again
      cases again
      exact sameIn_ofFile_again _ _ _ _

/-! ### Where the diagnostics of a file stand -/

theorem file_of_mem_run {source : SourceFile} {diagnostic : Diagnostic}
    (apart : runner.KeepsApart names) (listed : source.name ∈ names)
    (member : diagnostic ∈ (runner.run rules source).results.diagnostics)
    (among : diagnostic.location.file ∈ names) : diagnostic.location.file = source.name := by
  cases parsed : source.parse with
  | error error =>
    simp only [run, parsed, List.mem_singleton] at member
    subst member
    exact SourceFile.file_of_parse_error parsed
  | ok crate =>
    rw [(run_putTogether parsed).diagnostics] at member
    obtain ⟨checker, selected, member⟩ := List.mem_flatMap.mp member
    unfold contributed contribution at member
    split at member
    · exact (apart checker selected).of_mem_examine listed (List.mem_of_mem_filter member) among
    · rw [List.mem_singleton.mp member]
      rfl

/-- What is told by a look at one of the files stands in no other one. -/
theorem file_of_mem_runReading {diagnostic : Diagnostic} (apart : runner.KeepsApart names)
    (listed : file.name ∈ names)
    (member : diagnostic ∈ (runner.runReading rules file).results.diagnostics)
    (among : diagnostic.location.file ∈ names) : diagnostic.location.file = file.name := by
  unfold runReading at member
  split at member
  · rw [List.mem_singleton.mp member]
    rfl
  · exact file_of_mem_run apart listed member among

/-! ## Many files -/

variable {files first second : List FileReading} {outcome : RunOutcome}

/-- The results of a run over files that nothing came before, under rules that are known. -/
def resultsUnder (runner : Runner) (rules : Suppressions) (files : List FileReading) : Results :=
  (runner.runAll ⟨{}, rules, []⟩ files).results

/-- The rules that are known after a run over files. -/
def rulesAfter (runner : Runner) (rules : Suppressions) (files : List FileReading) : Suppressions :=
  (runner.runAll ⟨{}, rules, []⟩ files).suppressions

theorem runAll_suppressions (outcome : RunOutcome) (files : List FileReading) :
    (runner.runAll outcome files).suppressions = runner.rulesAfter outcome.suppressions files := by
  unfold rulesAfter
  have known : ∀ before after : RunOutcome, before.suppressions = after.suppressions →
      (runner.runAll before files).suppressions = (runner.runAll after files).suppressions := by
    induction files with
    | nil => exact fun _ _ same => same
    | cons file files inductionHypothesis =>
      intro before after same
      refine inductionHypothesis _ _ ?_
      simp only [RunOutcome.andThen, same]
  exact known _ _ rfl

/-- A run after others merges what it finds into what they found. -/
theorem runAll_results : (runner.runAll outcome files).results =
    outcome.results.merge (runner.resultsUnder outcome.suppressions files) := by
  unfold resultsUnder
  induction files generalizing outcome with
  | nil => exact (Results.merge_empty _).symm
  | cons file files inductionHypothesis =>
    let found := (runner.runReading outcome.suppressions file).results
    let later := (runner.runAll
      ⟨{}, (runner.runReading outcome.suppressions file).suppressions, []⟩ files).results
    have here : (runner.runAll outcome (file :: files)).results =
        (outcome.results.merge found).merge later := inductionHypothesis
    have alone : (runner.runAll ⟨{}, outcome.suppressions, []⟩ (file :: files)).results =
        (Results.merge {} found).merge later := inductionHypothesis
    have first : outcome.results.merge (Results.merge {} found) = outcome.results.merge found := by
      rw [← Results.merge_assoc _ _ Results.distinct_empty, Results.merge_empty]
    rw [here, alone, ← Results.merge_assoc _ _ (Results.distinct_empty.merge found), first]

theorem runAll_append : runner.runAll outcome (first ++ second) =
    runner.runAll (runner.runAll outcome first) second :=
  List.foldl_append

theorem resultsUnder_append (first second : List FileReading) :
    runner.resultsUnder rules (first ++ second) =
      (runner.resultsUnder rules first).merge
        (runner.resultsUnder (runner.rulesAfter rules first) second) := by
  unfold resultsUnder
  rw [runAll_append, runAll_results, resultsUnder, rulesAfter]

theorem resultsUnder_cons : runner.resultsUnder rules (file :: files) =
    (runner.resultsUnder rules [file]).merge
      (runner.resultsUnder (runner.runReading rules file).suppressions files) :=
  resultsUnder_append [file] files

/-- A run over files finds the same under rules that say the same for each of them. -/
theorem resultsUnder_same (apart : runner.KeepsApart names)
    (listed : ∀ file ∈ files, file.name ∈ names)
    (same : ∀ file ∈ files, SameFor names file.name rules others) :
    runner.resultsUnder rules files = runner.resultsUnder others files := by
  induction files generalizing rules others with
  | nil => rfl
  | cons file files inductionHypothesis =>
    rw [List.forall_mem_cons] at listed same
    have found : (runner.runReading rules file).results =
        (runner.runReading others file).results := runReading_same apart listed.1 same.1
    have here : runner.resultsUnder rules [file] = runner.resultsUnder others [file] :=
      congrArg (Results.merge {}) found
    have later : runner.resultsUnder (runner.runReading rules file).suppressions files =
        runner.resultsUnder (runner.runReading others file).suppressions files :=
      inductionHypothesis listed.2 fun other member name own =>
        runReading_keeps_same (same.2 other member name own)
    calc runner.resultsUnder rules (file :: files)
        = (runner.resultsUnder rules [file]).merge
            (runner.resultsUnder (runner.runReading rules file).suppressions files) :=
          resultsUnder_cons
      _ = (runner.resultsUnder others [file]).merge
            (runner.resultsUnder (runner.runReading others file).suppressions files) := by
          rw [here, later]
      _ = runner.resultsUnder others (file :: files) := resultsUnder_cons.symm

/-- A run over files learns nothing about others. -/
theorem sameIn_rulesAfter {name : String} (other : name ∉ files.map FileReading.name) :
    SameIn name rules (runner.rulesAfter rules files) := by
  induction files generalizing rules with
  | nil => exact .refl _ _
  | cons file files inductionHypothesis =>
    obtain ⟨notThis, notLater⟩ := not_or.mp (mt List.mem_cons.mpr other)
    let found := RunOutcome.andThen ⟨{}, rules, []⟩ fun rules => runner.runReading rules file
    have step : runner.rulesAfter rules (file :: files) =
        runner.rulesAfter found.suppressions files := runAll_suppressions found files
    rw [step]
    exact (sameIn_runReading (Ne.symm notThis)).trans (inductionHypothesis notLater)

/-- Files are run as if nothing had been run before, if none of them was. -/
theorem resultsUnder_rulesAfter (distinct : ((first ++ second).map FileReading.name).Nodup)
    (apart : runner.KeepsApart ((first ++ second).map FileReading.name)) :
    runner.resultsUnder (runner.rulesAfter rules first) second =
      runner.resultsUnder rules second := by
  have listed : ∀ file ∈ second, file.name ∈ (first ++ second).map FileReading.name :=
    fun file member => List.mem_map_of_mem (List.mem_append_right _ member)
  refine (resultsUnder_same apart listed fun file member name own => sameIn_rulesAfter ?_).symm
  intro before
  rw [List.map_append] at distinct own
  obtain rfl := own (List.mem_append_left _ before)
  exact (List.nodup_append.mp distinct).2.2 _ before _ (List.mem_map_of_mem member) rfl

/-- A file is found to be what it is found to be alone, whatever was run before it, as long as no
other file of its name was. -/
theorem runReading_after (apart : runner.KeepsApart names) (listed : file.name ∈ names)
    (before : List FileReading) (among : ∀ other ∈ before, other.name ∈ names)
    (agree : ∀ other ∈ before, other.name = file.name → other = file) :
    (runner.runReading (runner.rulesAfter rules before) file).results =
      (runner.runReading rules file).results := by
  induction before generalizing rules with
  | nil => rfl
  | cons first before inductionHypothesis =>
    rw [List.forall_mem_cons] at among agree
    have step : runner.rulesAfter rules (first :: before) =
        runner.rulesAfter (runner.runReading rules first).suppressions before :=
      runAll_suppressions
        ((⟨{}, rules, []⟩ : RunOutcome).andThen fun rules => runner.runReading rules first) before
    rw [step, inductionHypothesis among.2 agree.2]
    by_cases same : first.name = file.name
    · rw [agree.1 same]
      exact runReading_again apart listed rules
    · -- What the first file adds is about none of the files that the other one may tell of.
      refine (runReading_same apart listed fun name own => sameIn_runReading ?_).symm
      rintro rfl
      exact same (own among.1)

/-- Files of one name are the same file. -/
def Agree (files : List FileReading) : Prop :=
  ∀ file ∈ files, ∀ other ∈ files, other.name = file.name → other = file

theorem agree_of_nodup (distinct : (files.map FileReading.name).Nodup) : Agree files :=
  fun _ member _ listed same => List.inj_on_of_nodup_map distinct listed member same

/-- The diagnostics of a run over files are those of each of them alone, one after the other. -/
theorem diagnostics_resultsUnder (apart : runner.KeepsApart names)
    (listed : ∀ file ∈ files, file.name ∈ names) (agree : Agree files) :
    (runner.resultsUnder rules files).diagnostics =
      files.flatMap fun file => (runner.runReading rules file).results.diagnostics := by
  induction files generalizing rules with
  | nil => rfl
  | cons file files inductionHypothesis =>
    rw [List.forall_mem_cons] at listed
    let known := (runner.runReading rules file).suppressions
    have later : (runner.resultsUnder known files).diagnostics =
        files.flatMap fun file => (runner.runReading known file).results.diagnostics :=
      inductionHypothesis listed.2 fun one member other isOther =>
        agree one (List.mem_cons_of_mem _ member) other (List.mem_cons_of_mem _ isOther)
    have unchanged (other : FileReading) (isOther : other ∈ files) :
        (runner.runReading known other).results = (runner.runReading rules other).results := by
      refine runReading_after apart (listed.2 other isOther) [file] ?_ ?_
      · exact List.forall_mem_singleton.mpr listed.1
      · exact List.forall_mem_singleton.mpr
          (agree other (List.mem_cons_of_mem _ isOther) file List.mem_cons_self)
    have alone : files.flatMap (fun file => (runner.runReading known file).results.diagnostics) =
        files.flatMap fun file => (runner.runReading rules file).results.diagnostics :=
      List.flatMap_congr fun other isOther => by rw [unchanged other isOther]
    rw [resultsUnder_cons, List.flatMap_cons, ← alone, ← later]
    rfl

/-- What a run over files tells of one of them is what a run over that one tells of it. -/
theorem inFile_resultsUnder (apart : runner.KeepsApart names)
    (listed : ∀ file ∈ files, file.name ∈ names)
    (distinct : (files.map FileReading.name).Nodup) (member : file ∈ files) :
    (runner.resultsUnder rules files).inFile file.name =
      (runner.resultsUnder rules [file]).inFile file.name := by
  change _ = (runner.runReading rules file).results.inFile file.name
  unfold Results.inFile
  rw [diagnostics_resultsUnder apart listed (agree_of_nodup distinct), List.filter_flatMap]
  have foreign (other : FileReading) (isOther : other ∈ files) (different : other.name ≠ file.name) :
      (runner.runReading rules other).results.diagnostics.filter
        (·.location.file == file.name) = [] := by
    refine List.filter_eq_nil_iff.mpr fun diagnostic found => ?_
    rw [beq_iff_eq]
    intro among
    have stands := file_of_mem_runReading apart (listed other isOther) found
      (among ▸ listed file member)
    exact different (stands.symm.trans among)
  obtain ⟨before, after, rfl⟩ := List.append_of_mem member
  rw [List.map_append, List.map_cons, List.nodup_middle, ← List.map_append] at distinct
  have fresh := (List.nodup_cons.mp distinct).1
  have silent (others : List FileReading) (among : others ⊆ before ++ after) :
      others.flatMap (fun other => (runner.runReading rules other).results.diagnostics.filter
        (·.location.file == file.name)) = [] := by
    refine List.flatMap_eq_nil_iff.mpr fun other isOther => foreign other ?_ fun same => ?_
    · have := among isOther
      grind
    · exact fresh (same ▸ List.mem_map_of_mem (among isOther))
  rw [List.flatMap_append, List.flatMap_cons, silent before (List.subset_append_left _ _),
    silent after (List.subset_append_right _ _), List.nil_append, List.append_nil]

/-- Files of different names do not influence each other, where the checkers keep them apart.  The
diagnostics of a run over files are those that a run over each of them alone finds, one file after
the other, and of each file it tells what the run over that one tells of it; and however the list is
cut, the results are those of the first part merged with those of the second, whether the second is
run under the rules that are known at first or under those that are known after the first. -/
theorem runAll_splits (runner : Runner) (rules : Suppressions) (first second : List FileReading)
    (distinct : ((first ++ second).map FileReading.name).Nodup)
    (apart : runner.KeepsApart ((first ++ second).map FileReading.name)) :
    (runner.runAll ⟨{}, rules, []⟩ (first ++ second)).results.diagnostics =
      (first ++ second).flatMap (fun file =>
        (runner.runAll ⟨{}, rules, []⟩ [file]).results.diagnostics) ∧
    (∀ file ∈ first ++ second,
      (runner.runAll ⟨{}, rules, []⟩ (first ++ second)).results.inFile file.name =
        (runner.runAll ⟨{}, rules, []⟩ [file]).results.inFile file.name) ∧
    (runner.runAll ⟨{}, rules, []⟩ (first ++ second)).results =
      (runner.runAll ⟨{}, rules, []⟩ first).results.merge
        (runner.runAll ⟨{}, rules, []⟩ second).results ∧
    (runner.runAll ⟨{}, (runner.runAll ⟨{}, rules, []⟩ first).suppressions, []⟩ second).results =
      (runner.runAll ⟨{}, rules, []⟩ second).results := by
  have listed : ∀ file ∈ first ++ second, file.name ∈ (first ++ second).map FileReading.name :=
    fun file member => List.mem_map_of_mem member
  have later : runner.resultsUnder (runner.rulesAfter rules first) second =
      runner.resultsUnder rules second := resultsUnder_rulesAfter distinct apart
  have cut : runner.resultsUnder rules (first ++ second) =
      (runner.resultsUnder rules first).merge (runner.resultsUnder rules second) := by
    rw [resultsUnder_append, later]
  exact ⟨diagnostics_resultsUnder apart listed (agree_of_nodup distinct),
    fun file member => inFile_resultsUnder apart listed distinct member, cut, later⟩

/-- A file in which a comment holds back the finding that follows. -/
def suppressedFile : FileReading := ⟨"suppressed.rs", .ok
  ("fn f(mut v: Vec<i32>) \x7b\n// poplint-suppress *\n" ++
    "while !v.is_empty() { g(v.pop().unwrap()); } \x7d").toList⟩

def unreadableFile : FileReading := ⟨"unreadable.rs", .error "permission denied"⟩

def unfinishedFile : FileReading := ⟨"unfinished.rs", .ok "fn f(".toList⟩

/-- A runner with two checkers, both of which tell only of the file that they look at. -/
def counting : Runner where
  registry := Registry.builtin.register Checker.stmtCounter

theorem counting_keepsApart (names : List String) : counting.KeepsApart names := by
  have among : counting.checkers ⊆ Checker.samples := by
    have both : counting.checkers = [Checker.drainLoop, Checker.stmtCounter] := rfl
    simp [both, Checker.samples]
  exact fun checker selected => (Checker.samples_stayInFile checker (among selected)).keepsApart names

theorem runAll_splits_suppressedFile :
    ([suppressedFile, unreadableFile, unfinishedFile].map FileReading.name).Nodup ∧
    counting.KeepsApart ([suppressedFile, unreadableFile, unfinishedFile].map FileReading.name) ∧
    (counting.runAll ⟨{}, {}, []⟩ [suppressedFile, unreadableFile, unfinishedFile]).results.diagnostics =
      [suppressedFile, unreadableFile, unfinishedFile].flatMap (fun file =>
        (counting.runAll ⟨{}, {}, []⟩ [file]).results.diagnostics) ∧
    (∀ file ∈ [suppressedFile, unreadableFile, unfinishedFile],
      (counting.runAll ⟨{}, {}, []⟩ [suppressedFile, unreadableFile, unfinishedFile]).results.inFile
          file.name =
        (counting.runAll ⟨{}, {}, []⟩ [file]).results.inFile file.name) ∧
    (counting.runAll ⟨{}, {}, []⟩ [suppressedFile, unreadableFile, unfinishedFile]).results =
      (counting.runAll ⟨{}, {}, []⟩ [suppressedFile]).results.merge
        (counting.runAll ⟨{}, {}, []⟩ [unreadableFile, unfinishedFile]).results ∧
    (counting.runAll ⟨{}, (counting.runAll ⟨{}, {}, []⟩ [suppressedFile]).suppressions, []⟩
        [unreadableFile, unfinishedFile]).results =
      (counting.runAll ⟨{}, {}, []⟩ [unreadableFile, unfinishedFile]).results := by
  have distinct : ([suppressedFile, unreadableFile, unfinishedFile].map FileReading.name).Nodup := by
    decide
  have apart := counting_keepsApart
    ([suppressedFile, unreadableFile, unfinishedFile].map FileReading.name)
  exact ⟨distinct, apart,
    runAll_splits counting {} [suppressedFile] [unreadableFile, unfinishedFile] distinct apart⟩

/-! ## A checker that does not keep files apart -/

/-- What is told of the first line of one file. -/
def pointed : Diagnostic where
  errorId := "pointed"
  message := "see here"
  severity := .information
  location := ⟨"noted.rs", 1, 1⟩

/-- A checker that tells of one file whatever file it looks at. -/
def pointing : Checker where
  name := "pointing"
  implementation := "Pointing"
  description := ""
  errorIds := ["pointed"]
  severity := .information
  lint := ""
  readsTypes := false
  work _
    | .diagnose => { emitted := [pointed] }
    | .configure | .collect | .report => {}

def withPointing : Runner where
  registry := Registry.register {} pointing

/-- The file that is pointed to, with a comment that holds this back. -/
def notedFile : FileReading := ⟨"noted.rs", .ok "// poplint-suppress pointed".toList⟩

def emptyFile : FileReading := ⟨"empty.rs", .ok []⟩

theorem diagnostics_withPointing {source : SourceFile} {crate : Crate}
    (parsed : source.parse = .ok crate) :
    (withPointing.run rules source).results.diagnostics =
      (rules.ofFile source crate).kept [pointed] := by
  have only : withPointing.checkers = [pointing] := rfl
  rw [(run_putTogether parsed).diagnostics, only, List.flatMap_singleton]
  rfl

theorem kept_pointed (known : (("noted.rs", 1), ["pointed"]) ∈ rules.comments) :
    rules.kept [pointed] = [] := by
  have byComment : rules.suppressedByComment pointed = true :=
    List.any_eq_true.mpr ⟨_, known, by decide⟩
  simp [Suppressions.kept, Suppressions.suppresses, byComment]

/-- Where a look at one file tells of another one, it matters whether that one was run before: then
its comment holds back what is told, and alone it does not. -/
theorem runAll_mixes_pointing :
    ([notedFile, emptyFile].map FileReading.name).Nodup ∧
    (withPointing.runAll ⟨{}, {}, []⟩ [notedFile, emptyFile]).results.diagnostics = [] ∧
    (withPointing.runAll ⟨{}, {}, []⟩ [emptyFile]).results.diagnostics = [pointed] ∧
    (withPointing.runAll ⟨{}, {}, []⟩ [notedFile, emptyFile]).results ≠
      (withPointing.runAll ⟨{}, {}, []⟩ [notedFile]).results.merge
        (withPointing.runAll ⟨{}, {}, []⟩ [emptyFile]).results := by
  let noted : SourceFile := ⟨"noted.rs", "// poplint-suppress pointed".toList⟩
  let empty : SourceFile := ⟨"empty.rs", []⟩
  obtain ⟨first, notedParsed, -⟩ : ∃ crate, noted.parse = .ok crate ∧ true :=
    SourceFile.parse_of_noted (by decide +kernel)
  obtain ⟨second, emptyParsed, -⟩ : ∃ crate, empty.parse = .ok crate ∧ true :=
    SourceFile.parse_of_noted (by decide +kernel)
  have comment : (("noted.rs", 1), ["pointed"]) ∈ commentsOf noted := by decide +kernel
  have here : (withPointing.run {} noted).results.diagnostics = [] := by
    rw [diagnostics_withPointing notedParsed]
    exact kept_pointed comment
  have after : (withPointing.run (withPointing.run {} noted).suppressions empty).results.diagnostics =
      [] := by
    rw [diagnostics_withPointing emptyParsed, run_suppressions notedParsed]
    exact kept_pointed (List.mem_append_left _ comment)
  have alone : (withPointing.run {} empty).results.diagnostics = [pointed] := by
    rw [diagnostics_withPointing emptyParsed]
    rfl
  have together : (withPointing.runAll ⟨{}, {}, []⟩ [notedFile, emptyFile]).results.diagnostics =
      (withPointing.run {} noted).results.diagnostics ++
        (withPointing.run (withPointing.run {} noted).suppressions empty).results.diagnostics := rfl
  have merged : ((withPointing.runAll ⟨{}, {}, []⟩ [notedFile]).results.merge
      (withPointing.runAll ⟨{}, {}, []⟩ [emptyFile]).results).diagnostics =
      (withPointing.run {} noted).results.diagnostics ++
        (withPointing.run {} empty).results.diagnostics := rfl
  rw [here, after] at together
  rw [here, alone] at merged
  refine ⟨by decide, together, alone, fun same => ?_⟩
  rw [← same, together] at merged
  cases merged

end Runner
end DrainLint
