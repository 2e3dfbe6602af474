import DrainLint.Command.Run
import DrainLint.Proofs.Checker.Findings
import DrainLint.Proofs.Checker.Isolation
import DrainLint.Proofs.Command.Requests
import DrainLint.Proofs.Files.Names

/-! # Exit codes of checks

The exit code of a check says the worst that happened to any of its paths.  So a check of some paths
and of others answers with the greater of the two codes that the checks of each would answer with,
even where both lists lead to the same file.

- `Command.Fails`, `Command.Tells`: why a check fails, and what it has to tell;
- `Command.Answers`: the exit code that goes with them;
- `Command.answers_of_run`: the exit code of a check is that one;
- `Command.exit_codes_join`: the codes of two checks and of their paths together;
- `Command.check_crashes_longName`: a check that has no code.
-/

namespace DrainLint

open Hir

namespace Command

/-! ## Names of files and what is read there -/

section Files

variable {system : FileSystem} {path : String} {paths : List String} {file : FileReading}

/-- What is read for a path that leads somewhere is what its name leads to. -/
theorem exists_of_mem_readingsAt (proper : system.tree.Proper)
    (present : isMissing system path = .ok false) (notStdin : path ≠ "-")
    (member : file ∈ readingsAt system path) :
    ∃ name place, name.Proper ∧ system.walkTo name = .ok place ∧
      file = readingOf name place.here := by
  have named := FileName.proper_ofText path
  unfold isMissing at present
  rw [if_neg notStdin] at present
  split at present
  · cases present
  · split at present
    · rename_i place found
      have walked := FileSystem.walkTo_of_place found
      have below := (FileSystem.proper_of_walkTo proper walked).here
      have entered : system.find? (FileName.ofText path) = some place.here := by
        rw [FileSystem.find?, found]
      unfold readingsAt at member
      cases here : place.here with
      | file bytes =>
        rw [here] at entered
        simp only [entered, List.mem_singleton] at member
        exact ⟨_, place, named, walked, by rw [member, here]⟩
      | locked =>
        rw [here] at entered
        simp only [entered, List.mem_singleton] at member
        exact ⟨_, place, named, walked, by rw [member, here]⟩
      | directory entries =>
        rw [here] at entered
        simp only [entered, List.mem_map] at member
        obtain ⟨⟨parts, leaf⟩, listed, rfl⟩ := member
        have among : (parts, leaf) ∈ (FileTree.directory entries).files :=
          (List.mem_filter.mp (List.mem_mergeSort.mp listed)).1
        rw [here] at below
        -- The file is listed by its names below the directory, and these lead back to it.
        obtain ⟨⟨found, leads, isLeaf⟩, areParts⟩ :=
          FileTree.walk_of_mem_files below among place here
        refine ⟨(FileName.ofText path).extend parts, found, named.extend areParts, ?_, ?_⟩
        · rw [FileSystem.walkTo_extend walked, leads]
        · rw [isLeaf]
    · cases present
    · cases present

/-- What is read under one name is the same, whichever path leads to it. -/
theorem agree_readings (proper : system.tree.Proper) (noStdin : "-" ∉ paths)
    (present : ∀ path ∈ paths, isMissing system path = .ok false) :
    Runner.Agree (paths.flatMap (readingsAt system)) := by
  intro file member other listed same
  obtain ⟨path, among, member⟩ := List.mem_flatMap.mp member
  obtain ⟨otherPath, otherAmong, listed⟩ := List.mem_flatMap.mp listed
  obtain ⟨name, place, isName, leads, rfl⟩ := exists_of_mem_readingsAt proper
    (present path among) (fun isStdin => noStdin (isStdin ▸ among)) member
  obtain ⟨otherName, otherPlace, isOtherName, otherLeads, rfl⟩ := exists_of_mem_readingsAt proper
    (present otherPath otherAmong) (fun isStdin => noStdin (isStdin ▸ otherAmong)) listed
  -- What is read is known by its text only, but proper names are told apart by their texts.
  have oneName : otherName = name := FileName.text_injective isOtherName isName same
  subst oneName
  rw [leads] at otherLeads
  cases otherLeads
  rfl

end Files

/-! ## Paths that lead nowhere -/

section Missing

variable {system : FileSystem} {paths missing : List String}

/-- Whether it is found out that a path leads nowhere. -/
def leadsNowhere (system : FileSystem) (path : String) : Bool :=
  (isMissing system path).toOption == some true

theorem leadsNowhere_iff {path : String} :
    leadsNowhere system path = true ↔ isMissing system path = .ok true := by
  unfold leadsNowhere
  cases isMissing system path <;> simp [Except.toOption]

theorem filterAuxM_eq_ok_iff {asked kept : List String} :
    List.filterAuxM (isMissing system) paths kept = .ok asked ↔
      (∀ path ∈ paths, ∃ answer, isMissing system path = .ok answer) ∧
        asked = (paths.filter (leadsNowhere system)).reverse ++ kept := by
  induction paths generalizing kept with
  | nil => simp [List.filterAuxM, pure, Except.pure, eq_comm]
  | cons path paths inductionHypothesis =>
    rw [List.filterAuxM]
    cases answered : isMissing system path with
    | error crash =>
      constructor
      · rintro ⟨⟩
      · rintro ⟨answers, _⟩
        obtain ⟨answer, known⟩ := answers path List.mem_cons_self
        rw [answered] at known
        cases known
    | ok answer =>
      change List.filterAuxM (isMissing system) paths _ = .ok asked ↔ _
      rw [inductionHypothesis]
      cases answer <;> simp [leadsNowhere, answered, Except.toOption]

theorem missingPaths_eq_ok_iff : missingPaths system paths = .ok missing ↔
    (∀ path ∈ paths, ∃ answer, isMissing system path = .ok answer) ∧
      missing = paths.filter (leadsNowhere system) := by
  have asked := @filterAuxM_eq_ok_iff system paths missing.reverse []
  rw [List.append_nil, List.reverse_inj] at asked
  rw [← asked, missingPaths, List.filterM]
  cases List.filterAuxM (isMissing system) paths [] with
  | error crash => exact ⟨nofun, nofun⟩
  | ok found => simp [bind, Except.bind, pure, Except.pure, List.reverse_eq_iff]

theorem missing_of_mem {path : String} (looked : missingPaths system paths = .ok missing)
    (member : path ∈ missing) : path ∈ paths ∧ isMissing system path = .ok true := by
  rw [(missingPaths_eq_ok_iff.mp looked).2, List.mem_filter, leadsNowhere_iff] at member
  exact member

theorem present_of_none_missing (looked : missingPaths system paths = .ok []) :
    ∀ path ∈ paths, isMissing system path = .ok false := by
  intro path member
  obtain ⟨answers, noneMissing⟩ := missingPaths_eq_ok_iff.mp looked
  obtain ⟨answer, answered⟩ := answers path member
  cases answer with
  | false => exact answered
  | true =>
    have listed : path ∈ paths.filter (leadsNowhere system) :=
      List.mem_filter.mpr ⟨member, leadsNowhere_iff.mpr answered⟩
    rw [← noneMissing] at listed
    cases listed

end Missing

/-! ## Runs over files -/

/-- The rules that a check starts with. -/
def startRules (config : Config) : Suppressions :=
  config.suppress.foldl Suppressions.addEverywhere {}

section Runs

variable {world : World} {config : Config} {paths : List String} {file : FileReading}
  {diagnostic : Diagnostic}

theorem checkPaths_results (noStdin : "-" ∉ paths) :
    (checkPaths world config paths).results =
      (runnerOf config).resultsUnder (startRules config)
        (paths.flatMap (readingsAt world.system)) := by
  have named : paths.filter (· != "-") = paths :=
    List.filter_eq_self.mpr fun path member => by
      simpa using fun isStdin : path = "-" => noStdin (isStdin ▸ member)
  have unasked : paths.filter (· == "-") = [] :=
    List.filter_eq_nil_iff.mpr fun path member => by
      simpa using fun isStdin : path = "-" => noStdin (isStdin ▸ member)
  unfold checkPaths
  simp only [named, stdinTexts, unasked]
  rfl

/-- A file that parses gives diagnostics of loops and of checkers that failed, and no other. -/
theorem errorId_of_mem_run {source : SourceFile} {crate : Crate} {rules : Suppressions}
    (parsed : source.parse = .ok crate)
    (found : diagnostic ∈ ((runnerOf config).run rules source).results.diagnostics) :
    diagnostic.errorId = "whilePopUnwrap" ∨ diagnostic.errorId = "checkerInternalError" := by
  rcases Runner.finding_or_failure_of_mem_run rfl parsed found with
    ⟨_, _, _, made, _⟩ | ⟨failure, rfl⟩
  · obtain ⟨_, rfl⟩ := Checker.DrainLoop.diagnosticOf_eq made
    exact .inl rfl
  · exact .inr rfl

/-- What a check finds in a file. -/
def foundIn (config : Config) (file : FileReading) : List Diagnostic :=
  ((runnerOf config).runReading (startRules config) file).results.diagnostics

theorem foundIn_ok {text : List Char} (read : file.content = .ok text) : foundIn config file =
    ((runnerOf config).run (startRules config) ⟨file.name, text⟩).results.diagnostics := by
  simp only [foundIn, Runner.runReading, read]

theorem unreadable_iff : (∃ diagnostic ∈ foundIn config file, diagnostic.errorId = "fileReadError") ↔
    ∃ reason, file.content = .error reason := by
  cases read : file.content with
  | error reason => simp [foundIn, Runner.runReading, read, Runner.readError]
  | ok text =>
    rw [foundIn_ok read]
    simp only [reduceCtorEq, exists_false, iff_false]
    rintro ⟨diagnostic, found, isReadError⟩
    cases parsed : SourceFile.parse ⟨file.name, text⟩ with
    | error error =>
      simp only [Runner.run, parsed, List.mem_singleton] at found
      simp [found, Runner.syntaxError] at isReadError
    | ok crate => rcases errorId_of_mem_run parsed found with id | id <;> simp [id] at isReadError

theorem unparsed_iff : (∃ diagnostic ∈ foundIn config file, diagnostic.errorId = "syntaxError") ↔
    ∃ text error, file.content = .ok text ∧ SourceFile.parse ⟨file.name, text⟩ = .error error := by
  cases read : file.content with
  | error reason => simp [foundIn, Runner.runReading, read, Runner.readError]
  | ok text =>
    rw [foundIn_ok read]
    cases parsed : SourceFile.parse ⟨file.name, text⟩ with
    | error error => simp [Runner.run, parsed, Runner.syntaxError]
    | ok crate =>
      simp only [Except.ok.injEq, exists_and_left, exists_eq_left', parsed, reduceCtorEq,
        exists_false, iff_false]
      rintro ⟨diagnostic, found, isSyntaxError⟩
      rcases errorId_of_mem_run parsed found with id | id <;> simp [id] at isSyntaxError

end Runs

/-! ## Exit codes -/

/-- Why a check fails: a setting or a checker that there is not, a path that leads nowhere, or a
file that cannot be read. -/
inductive Fails (world : World) (given : Overrides) (paths : List String) : Prop where
  | setting {invalid : InvalidSetting} (refused : settings world given = .error invalid)
  | checker {config : Config} (accepted : settings world given = .ok config)
      (unknown : unknownCheckers .builtin config ≠ [])
  | missing {path : String} (named : path ∈ paths) (missing : isMissing world.system path = .ok true)
  | unreadable {file : FileReading} {reason : String}
      (among : file ∈ paths.flatMap (readingsAt world.system)) (unread : file.content = .error reason)

/-- What a check has to tell: a file that does not parse or, where findings count, a finding that no
rule holds back. -/
inductive Tells (world : World) (given : Overrides) (paths : List String) : Prop where
  | unparsed {file : FileReading} {text : List Char} {error : ParseError}
      (among : file ∈ paths.flatMap (readingsAt world.system)) (read : file.content = .ok text)
      (failed : SourceFile.parse ⟨file.name, text⟩ = .error error)
  | finding {config : Config} {file : FileReading} {text : List Char} {diagnostic : Diagnostic}
      (accepted : settings world given = .ok config) (counts : config.failOnFindings = true)
      (among : file ∈ paths.flatMap (readingsAt world.system)) (read : file.content = .ok text)
      (found : diagnostic ∈
        ((runnerOf config).run (startRules config) ⟨file.name, text⟩).results.diagnostics)
      (ofLint : diagnostic.lint ≠ "")

/-- The exit code of a check: failures come before what it has to tell. -/
structure Answers (world : World) (given : Overrides) (paths : List String) (code : Nat) : Prop where
  failure : code = failureCode ↔ Fails world given paths
  findings : code = findingsCode ↔ ¬ Fails world given paths ∧ Tells world given paths
  success : code = successCode ↔ ¬ Fails world given paths ∧ ¬ Tells world given paths

section Codes

variable {world : World} {given : Overrides} {config : Config} {paths first second : List String}
  {outcome : Outcome}

theorem exitCode_eq_failure_iff {results : Results} : exitCode config results = failureCode ↔
    ∃ diagnostic ∈ results.diagnostics, diagnostic.errorId = "fileReadError" := by
  have some_read : (results.withErrorId "fileReadError").isEmpty = false ↔
      ∃ diagnostic ∈ results.diagnostics, diagnostic.errorId = "fileReadError" := by
    simp [Results.withErrorId, List.isEmpty_eq_false_iff, List.filter_eq_nil_iff]
  rw [← some_read]
  unfold exitCode
  generalize (if config.failOnFindings then results.findingCount else 0) = findings
  cases (results.withErrorId "fileReadError").isEmpty
  · simp
  · simp only [Bool.not_true, Bool.false_eq_true, if_false, reduceCtorEq, iff_false]
    split <;> simp [successCode, findingsCode, failureCode]

theorem exitCode_eq_success_iff {results : Results} : exitCode config results = successCode ↔
    (¬ ∃ diagnostic ∈ results.diagnostics, diagnostic.errorId = "fileReadError") ∧
    (¬ ∃ diagnostic ∈ results.diagnostics, diagnostic.errorId = "syntaxError") ∧
    ¬ (config.failOnFindings = true ∧ ∃ diagnostic ∈ results.diagnostics, diagnostic.lint ≠ "") := by
  have none_unread : (results.withErrorId "fileReadError").isEmpty = true ↔
      ¬ ∃ diagnostic ∈ results.diagnostics, diagnostic.errorId = "fileReadError" := by
    simp [Results.withErrorId, List.isEmpty_iff, List.filter_eq_nil_iff]
  have none_unparsed : (results.withErrorId "syntaxError").isEmpty = true ↔
      ¬ ∃ diagnostic ∈ results.diagnostics, diagnostic.errorId = "syntaxError" := by
    simp [Results.withErrorId, List.isEmpty_iff, List.filter_eq_nil_iff]
  have none_found : results.findingCount = 0 ↔
      ¬ ∃ diagnostic ∈ results.diagnostics, diagnostic.lint ≠ "" := by
    simp [Results.findingCount, List.filter_eq_nil_iff]
  rw [← none_unread, ← none_unparsed, not_and, ← none_found]
  unfold exitCode
  cases (results.withErrorId "fileReadError").isEmpty <;>
    cases (results.withErrorId "syntaxError").isEmpty <;>
    cases config.failOnFindings <;>
    simp [successCode, findingsCode, failureCode]

theorem exitCode_one_of (config : Config) (results : Results) :
    exitCode config results = successCode ∨ exitCode config results = findingsCode ∨
      exitCode config results = failureCode := by
  unfold exitCode
  generalize (if config.failOnFindings then results.findingCount else 0) = findings
  simp only
  split
  · exact .inr (.inr rfl)
  · split
    · exact .inr (.inl rfl)
    · exact .inl rfl

/-- One of the three codes is known by when it is a failure and when it is a success. -/
theorem Answers.of_iff {code : Nat}
    (oneOf : code = successCode ∨ code = findingsCode ∨ code = failureCode)
    (failure : code = failureCode ↔ Fails world given paths)
    (success : code = successCode ↔ ¬ Fails world given paths ∧ ¬ Tells world given paths) :
    Answers world given paths code where
  failure := failure
  success := success
  findings := by
    rcases oneOf with rfl | rfl | rfl
    · obtain ⟨_, silent⟩ := success.mp rfl
      exact ⟨nofun, fun told => absurd told.2 silent⟩
    · have passes : ¬ Fails world given paths := fun fails => by cases failure.mpr fails
      refine ⟨fun _ => ⟨passes, ?_⟩, fun _ => rfl⟩
      by_contra silent
      cases success.mpr ⟨passes, silent⟩
    · exact ⟨nofun, fun told => absurd (failure.mp rfl) told.1⟩

theorem Answers.of_fails (fails : Fails world given paths) : Answers world given paths failureCode :=
  .of_iff (.inr (.inr rfl)) ⟨fun _ => fails, fun _ => rfl⟩
    ⟨nofun, fun passes => absurd fails passes.1⟩

theorem Answers.le_findings {code : Nat} (answers : Answers world given paths code)
    (passes : ¬ Fails world given paths) : code ≤ findingsCode := by
  by_cases tells : Tells world given paths
  · exact Nat.le_of_eq (answers.findings.mpr ⟨passes, tells⟩)
  · rw [answers.success.mpr ⟨passes, tells⟩]
    exact Nat.zero_le _

theorem Answers.le_failure {code : Nat} (answers : Answers world given paths code) :
    code ≤ failureCode := by
  by_cases fails : Fails world given paths
  · exact Nat.le_of_eq (answers.failure.mpr fails)
  · exact Nat.le_trans (answers.le_findings fails) (Nat.le_succ _)

/-! ### Checks of paths that are there -/

section Present

variable (proper : world.system.tree.Proper) (noStdin : "-" ∉ paths)
  (accepted : settings world given = .ok config)
  (known : unknownCheckers .builtin config = [])
  (present : ∀ path ∈ paths, isMissing world.system path = .ok false)

include proper noStdin present

/-- A check finds what it finds in each of the files, whatever the order and however often. -/
theorem mem_checkPaths_iff (diagnostic : Diagnostic) :
    diagnostic ∈ (checkPaths world config paths).results.diagnostics ↔
      ∃ file ∈ paths.flatMap (readingsAt world.system), diagnostic ∈ foundIn config file := by
  have apart (names : List String) : (runnerOf config).KeepsApart names := fun checker selected =>
    Runner.eq_drainLoop_of_mem_checkers rfl selected ▸ Checker.drainLoop_staysInFile.keepsApart names
  rw [checkPaths_results noStdin, Runner.diagnostics_resultsUnder (apart _)
    (fun _ => List.mem_map_of_mem) (agree_readings proper noStdin present), List.mem_flatMap]
  rfl

include accepted

include known in
/-- Where all is there that was asked for, a check fails by what cannot be read. -/
theorem fails_iff : Fails world given paths ↔
    ∃ diagnostic ∈ (checkPaths world config paths).results.diagnostics,
      diagnostic.errorId = "fileReadError" := by
  have among := @mem_checkPaths_iff _ config _ proper noStdin present
  constructor
  · intro fails
    cases fails with
    | setting refused =>
      rw [accepted] at refused
      cases refused
    | checker again unknown =>
      rw [accepted] at again
      cases again
      exact absurd known unknown
    | missing named missing =>
      rw [present _ named] at missing
      cases missing
    | unreadable member unread =>
      obtain ⟨diagnostic, found, isReadError⟩ := unreadable_iff.mpr ⟨_, unread⟩
      exact ⟨diagnostic, (among _).mpr ⟨_, member, found⟩, isReadError⟩
  · rintro ⟨diagnostic, found, isReadError⟩
    obtain ⟨file, member, found⟩ := (among _).mp found
    obtain ⟨reason, unread⟩ := unreadable_iff.mp ⟨diagnostic, found, isReadError⟩
    exact .unreadable member unread

theorem tells_iff (passes : ¬ Fails world given paths) : Tells world given paths ↔
    (∃ diagnostic ∈ (checkPaths world config paths).results.diagnostics,
      diagnostic.errorId = "syntaxError") ∨
    (config.failOnFindings = true ∧
      ∃ diagnostic ∈ (checkPaths world config paths).results.diagnostics,
        diagnostic.lint ≠ "") := by
  have among := @mem_checkPaths_iff _ config _ proper noStdin present
  constructor
  · intro tells
    cases tells with
    | unparsed member read failed =>
      obtain ⟨diagnostic, found, isSyntaxError⟩ := unparsed_iff.mpr ⟨_, _, read, failed⟩
      exact .inl ⟨diagnostic, (among _).mpr ⟨_, member, found⟩, isSyntaxError⟩
    | finding again counts member read found ofLint =>
      rw [accepted] at again
      cases again
      rw [← foundIn_ok read] at found
      exact .inr ⟨counts, _, (among _).mpr ⟨_, member, found⟩, ofLint⟩
  · rintro (⟨diagnostic, found, isSyntaxError⟩ | ⟨counts, diagnostic, found, ofLint⟩)
    · obtain ⟨file, member, found⟩ := (among _).mp found
      obtain ⟨text, error, read, failed⟩ := unparsed_iff.mp ⟨diagnostic, found, isSyntaxError⟩
      exact .unparsed member read failed
    · obtain ⟨file, member, found⟩ := (among _).mp found
      -- A file that cannot be read has a diagnostic without a lint, but then the check fails.
      cases read : file.content with
      | error reason => exact absurd (.unreadable member read) passes
      | ok text =>
        rw [foundIn_ok read] at found
        exact .finding accepted counts member read found ofLint

include known in
/-- The code of a check whose settings, checkers and paths are all there. -/
theorem answers_exitCode :
    Answers world given paths (exitCode config (checkPaths world config paths).results) := by
  have fails := fails_iff proper noStdin accepted known present
  have tells := tells_iff proper noStdin accepted present
  refine .of_iff (exitCode_one_of _ _) (exitCode_eq_failure_iff.trans fails.symm) ?_
  rw [exitCode_eq_success_iff, ← fails]
  constructor
  · rintro ⟨passes, parses, finds⟩
    exact ⟨passes, fun told => ((tells passes).mp told).elim parses finds⟩
  · rintro ⟨passes, silent⟩
    exact ⟨passes, fun unparsed => silent ((tells passes).mpr (.inl unparsed)),
      fun found => silent ((tells passes).mpr (.inr found))⟩

end Present

end Codes

/-! ## Reports -/

/-- What is reported does not decide whether a SARIF report is written. -/
theorem isSome_sarif_reportAll (reporter : Reporter) (results : Results) :
    (reporter.reportAll results).sarif?.isSome = reporter.sarif?.isSome := by
  have reporting (diagnostics : List Diagnostic) : ∀ reporter : Reporter,
      (diagnostics.foldl Reporter.report reporter).sarif?.isSome = reporter.sarif?.isSome := by
    induction diagnostics with
    | nil => exact fun _ => rfl
    | cons diagnostic diagnostics inductionHypothesis =>
      intro reporter
      rw [List.foldl_cons, inductionHypothesis]
      simp [Reporter.report]
  exact reporting results.diagnostics _

/-- A SARIF report is written, or refused, whatever is in it. -/
theorem exists_sarifFile {world : World} {config : Config} {reporter other : Reporter}
    {written : Option (FileName × String) × String}
    (same : reporter.sarif?.isSome = other.sarif?.isSome)
    (wrote : sarifFile world config reporter = .ok written) :
    ∃ written, sarifFile world config other = .ok written := by
  unfold sarifFile at wrote ⊢
  cases asked : reporter.sarif? with
  | none =>
    have unasked : other.sarif? = none := by simpa [asked] using same
    rw [unasked]
    exact ⟨_, rfl⟩
  | some log =>
    obtain ⟨otherLog, otherAsked⟩ : ∃ log, other.sarif? = some log := by
      rw [asked] at same
      exact Option.isSome_iff_exists.mp same.symm
    rw [otherAsked]
    cases path : config.sarifPath? with
    | none => exact ⟨_, rfl⟩
    | some path =>
      simp only [asked, path] at wrote ⊢
      split
      · rename_i hasNul
        simp [hasNul] at wrote
      · split <;> exact ⟨_, rfl⟩

/-! ## Runs of the program -/

section Programs

variable {world : World} {given : Overrides} {config : Config} {paths first second : List String}
  {outcome : Outcome}

theorem checkPresent_eq_ok (checked : checkPresent world config paths = .ok outcome) :
    outcome.code = exitCode config (checkPaths world config paths).results ∧
    ∃ written, sarifFile world config
      ((reporterOf world config).reportAll (checkPaths world config paths).results) =
        .ok written := by
  unfold checkPresent at checked
  cases wrote : sarifFile world config
      ((reporterOf world config).reportAll (checkPaths world config paths).results) with
  | error crash => simp [wrote, bind, Except.bind] at checked
  | ok written =>
    simp only [wrote, bind, Except.bind, pure, Except.pure, Except.ok.injEq] at checked
    exact ⟨by rw [← checked], written, rfl⟩

/-- Whether a check of paths that are there has an outcome does not depend on the paths. -/
theorem exists_checkPresent (checked : checkPresent world config paths = .ok outcome)
    (others : List String) : ∃ outcome, checkPresent world config others = .ok outcome := by
  obtain ⟨_, written, wrote⟩ := checkPresent_eq_ok checked
  have same := (isSome_sarif_reportAll (reporterOf world config)
    (checkPaths world config paths).results).trans
      (isSome_sarif_reportAll _ (checkPaths world config others).results).symm
  obtain ⟨otherWritten, otherWrote⟩ := exists_sarifFile same wrote
  simp only [checkPresent, otherWrote]
  exact ⟨_, rfl⟩

/-- A check of paths that are there has an outcome where no SARIF report is asked for. -/
theorem exists_perform (accepted : settings world given = .ok config)
    (known : unknownCheckers .builtin config = []) (unasked : config.sarifPath? = none)
    (present : ∀ path ∈ paths, isMissing world.system path = .ok false) :
    ∃ outcome, perform world given (.check paths) = .ok outcome := by
  have looked : missingPaths world.system paths = .ok [] := by
    refine missingPaths_eq_ok_iff.mpr ⟨fun path member => ⟨_, present path member⟩, ?_⟩
    refine (List.filter_eq_nil_iff.mpr fun path member => ?_).symm
    simp [leadsNowhere, present path member, Except.toOption]
  have wrote (reporter : Reporter) : sarifFile world config reporter = .ok (none, "") := by
    unfold sarifFile
    rw [unasked]
    cases reporter.sarif? <;> rfl
  simp only [perform, accepted, checkFiles, known, looked, bind, Except.bind, checkPresent, wrote]
  exact ⟨_, rfl⟩

/-- How a check of some paths comes to an outcome. -/
inductive Ends (world : World) (given : Overrides) (paths : List String) (outcome : Outcome) :
    Prop where
  | fails (failed : outcome.code = failureCode) (why : Fails world given paths)
  | checked {config : Config} (accepted : settings world given = .ok config)
      (known : unknownCheckers .builtin config = [])
      (present : ∀ path ∈ paths, isMissing world.system path = .ok false)
      (checked : checkPresent world config paths = .ok outcome)

theorem ends_of_perform (ran : perform world given (.check paths) = .ok outcome) :
    Ends world given paths outcome := by
  unfold perform at ran
  split at ran
  · cases ran
  · rename_i invalid _ refused
    cases ran
    exact .fails rfl (.setting refused)
  · rename_i config accepted
    simp only [checkFiles] at ran
    split at ran
    · rename_i known
      cases looked : missingPaths world.system paths with
      | error crash => simp [looked, bind, Except.bind] at ran
      | ok missing =>
        simp only [looked, bind, Except.bind] at ran
        cases missing with
        | nil => exact .checked accepted known (present_of_none_missing looked) ran
        | cons path missing =>
          cases ran
          obtain ⟨named, isMissing⟩ := missing_of_mem looked List.mem_cons_self
          exact .fails rfl (.missing named isMissing)
    · rename_i unknown
      cases ran
      exact .fails rfl (.checker accepted unknown)

theorem answers_of_run {args : List String} (proper : world.system.tree.Proper)
    (noStdin : "-" ∉ paths) (asks : Request.ofArgs args = .ok (.act given (.check paths)))
    (ran : run world args = .ok outcome) : Answers world given paths outcome.code := by
  simp only [run, asks] at ran
  cases ends_of_perform ran with
  | fails failed why =>
    rw [failed]
    exact .of_fails why
  | checked accepted known present checked =>
    rw [(checkPresent_eq_ok checked).1]
    exact answers_exitCode proper noStdin accepted known present

/-! ### Paths together -/

variable {one two : Outcome}

theorem missingPaths_append {system : FileSystem} {missing more : List String}
    (looked : missingPaths system first = .ok missing)
    (lookedToo : missingPaths system second = .ok more) :
    missingPaths system (first ++ second) = .ok (missing ++ more) := by
  obtain ⟨answers, rfl⟩ := missingPaths_eq_ok_iff.mp looked
  obtain ⟨answersToo, rfl⟩ := missingPaths_eq_ok_iff.mp lookedToo
  refine missingPaths_eq_ok_iff.mpr ⟨fun path member => ?_, (List.filter_append _ _).symm⟩
  exact (List.mem_append.mp member).elim (answers path) (answersToo path)

/-- Paths of two checks that have outcomes have one together. -/
theorem exists_checkFiles_append (ranFirst : checkFiles world config first = .ok one)
    (ranSecond : checkFiles world config second = .ok two) :
    ∃ both, checkFiles world config (first ++ second) = .ok both := by
  unfold checkFiles at ranFirst ranSecond ⊢
  simp only at ranFirst ranSecond ⊢
  split
  · rename_i known
    simp only [known] at ranFirst ranSecond
    cases looked : missingPaths world.system first with
    | error crash => simp [looked, bind, Except.bind] at ranFirst
    | ok missing =>
      cases lookedToo : missingPaths world.system second with
      | error crash => simp [lookedToo, bind, Except.bind] at ranSecond
      | ok more =>
        simp only [looked, bind, Except.bind] at ranFirst
        simp only [missingPaths_append looked lookedToo, bind, Except.bind]
        -- The files are read only if both lists lead somewhere.
        cases missing with
        | cons path missing => exact ⟨_, rfl⟩
        | nil => cases more with
          | cons path more => exact ⟨_, rfl⟩
          | nil => exact exists_checkPresent ranFirst (first ++ second)
  · exact ⟨_, rfl⟩

theorem exists_perform_append (ranFirst : perform world given (.check first) = .ok one)
    (ranSecond : perform world given (.check second) = .ok two) :
    ∃ both, perform world given (.check (first ++ second)) = .ok both := by
  unfold perform at ranFirst ranSecond ⊢
  split
  · rename_i refused
    simp [refused] at ranFirst
  · exact ⟨_, rfl⟩
  · rename_i config accepted
    simp only [accepted] at ranFirst ranSecond
    exact exists_checkFiles_append ranFirst ranSecond

theorem fails_append_iff : Fails world given (first ++ second) ↔
    Fails world given first ∨ Fails world given second := by
  constructor
  · rintro (refused | ⟨accepted, unknown⟩ | ⟨named, missing⟩ | ⟨among, unread⟩)
    · exact .inl (.setting refused)
    · exact .inl (.checker accepted unknown)
    · exact (List.mem_append.mp named).imp (fun named => .missing named missing)
        fun named => .missing named missing
    · rw [List.flatMap_append] at among
      exact (List.mem_append.mp among).imp (fun among => .unreadable among unread)
        fun among => .unreadable among unread
  · rintro (fails | fails)
    all_goals
      cases fails with
      | setting refused => exact .setting refused
      | checker accepted unknown => exact .checker accepted unknown
      | missing named missing => exact .missing (by simp [named]) missing
      | unreadable among unread => exact .unreadable (by rw [List.flatMap_append]; simp [among]) unread

theorem tells_append_iff : Tells world given (first ++ second) ↔
    Tells world given first ∨ Tells world given second := by
  constructor
  · rintro (⟨among, read, failed⟩ | ⟨accepted, counts, among, read, found, ofLint⟩)
    all_goals rw [List.flatMap_append] at among
    · exact (List.mem_append.mp among).imp (fun among => .unparsed among read failed)
        fun among => .unparsed among read failed
    · exact (List.mem_append.mp among).imp
        (fun among => .finding accepted counts among read found ofLint)
        fun among => .finding accepted counts among read found ofLint
  · rintro (tells | tells)
    all_goals
      cases tells with
      | unparsed among read failed => exact .unparsed (by rw [List.flatMap_append]; simp [among]) read failed
      | finding accepted counts among read found ofLint =>
        exact .finding accepted counts (by rw [List.flatMap_append]; simp [among]) read found ofLint

/-- The codes of paths join: that of all of them is the greater one. -/
theorem Answers.join {code other both : Nat} (answers : Answers world given first code)
    (answersToo : Answers world given second other)
    (together : Answers world given (first ++ second) both) : both = max code other := by
  have fails := @fails_append_iff world given first second
  have tells := @tells_append_iff world given first second
  -- What decides the code of all paths decides that of one of the lists: first who fails, then who
  -- has something to tell.
  by_cases failsFirst : Fails world given first
  · rw [together.failure.mpr (fails.mpr (.inl failsFirst)), answers.failure.mpr failsFirst]
    exact (Nat.max_eq_left answersToo.le_failure).symm
  by_cases failsSecond : Fails world given second
  · rw [together.failure.mpr (fails.mpr (.inr failsSecond)), answersToo.failure.mpr failsSecond]
    exact (Nat.max_eq_right answers.le_failure).symm
  have passes : ¬ Fails world given (first ++ second) := fun either =>
    (fails.mp either).elim failsFirst failsSecond
  by_cases tellsFirst : Tells world given first
  · rw [together.findings.mpr ⟨passes, tells.mpr (.inl tellsFirst)⟩,
      answers.findings.mpr ⟨failsFirst, tellsFirst⟩]
    exact (Nat.max_eq_left (answersToo.le_findings failsSecond)).symm
  by_cases tellsSecond : Tells world given second
  · rw [together.findings.mpr ⟨passes, tells.mpr (.inr tellsSecond)⟩,
      answersToo.findings.mpr ⟨failsSecond, tellsSecond⟩]
    exact (Nat.max_eq_right (answers.le_findings failsFirst)).symm
  · have silent : ¬ Tells world given (first ++ second) := fun either =>
      (tells.mp either).elim tellsFirst tellsSecond
    rw [together.success.mpr ⟨passes, silent⟩, answers.success.mpr ⟨failsFirst, tellsFirst⟩,
      answersToo.success.mpr ⟨failsSecond, tellsSecond⟩]
    rfl

/-- The exit codes of checks join.  Where a check of some paths and one of others, with the same
settings, have outcomes, the check of all these paths has one, and its code is the greater of the two
codes.  Each of the three codes is a failure if a setting, a checker or a path is not there or a file
cannot be read; otherwise it tells of findings if a file does not parse or, where findings count, a
finding is not held back; otherwise it is a success. -/
theorem exit_codes_join {onFirst onSecond onBoth : List String}
    (proper : world.system.tree.Proper) (noStdin : "-" ∉ first ++ second)
    (asksFirst : Request.ofArgs onFirst = .ok (.act given (.check first)))
    (asksSecond : Request.ofArgs onSecond = .ok (.act given (.check second)))
    (asksBoth : Request.ofArgs onBoth = .ok (.act given (.check (first ++ second))))
    (ranFirst : run world onFirst = .ok one) (ranSecond : run world onSecond = .ok two) :
    Answers world given first one.code ∧ Answers world given second two.code ∧
    ∃ both, run world onBoth = .ok both ∧ Answers world given (first ++ second) both.code ∧
      both.code = max one.code two.code := by
  rw [List.mem_append, not_or] at noStdin
  have answers := answers_of_run proper noStdin.1 asksFirst ranFirst
  have answersToo := answers_of_run proper noStdin.2 asksSecond ranSecond
  have ranBoth : ∃ both, run world onBoth = .ok both := by
    simp only [run, asksFirst] at ranFirst
    simp only [run, asksSecond] at ranSecond
    simp only [run, asksBoth]
    exact exists_perform_append ranFirst ranSecond
  obtain ⟨both, ranBoth⟩ := ranBoth
  have together := answers_of_run proper
    (by simpa using noStdin) asksBoth ranBoth
  exact ⟨answers, answersToo, both, ranBoth, together, answers.join answersToo together⟩

end Programs

/-- A directory with a file that drains a vector by hand, one that ends in the middle of a function,
and one that may not be read. -/
def mixedFolder : World where
  system := ⟨.directory
    [("drain.rs", .file (("fn f(v: &mut Vec<i32>) \x7b while !v.is_empty() \x7b " ++
        "let x = v.pop().unwrap(); \x7d \x7d").toList.map Char.toNat)),
      ("broken.rs", .file ("fn f(".toList.map Char.toNat)), ("locked.rs", .locked)], []⟩

theorem exit_codes_join_mixedFolder :
    mixedFolder.system.tree.Proper ∧ "-" ∉ ["drain.rs"] ++ ["broken.rs", "locked.rs"] ∧
    Request.ofArgs ["check", "drain.rs"] = .ok (.act {} (.check ["drain.rs"])) ∧
    Request.ofArgs ["check", "broken.rs", "locked.rs"] =
      .ok (.act {} (.check ["broken.rs", "locked.rs"])) ∧
    Request.ofArgs ["check", "drain.rs", "broken.rs", "locked.rs"] =
      .ok (.act {} (.check (["drain.rs"] ++ ["broken.rs", "locked.rs"]))) ∧
    ∃ one two, run mixedFolder ["check", "drain.rs"] = .ok one ∧
      run mixedFolder ["check", "broken.rs", "locked.rs"] = .ok two ∧
      Answers mixedFolder {} ["drain.rs"] one.code ∧
      Answers mixedFolder {} ["broken.rs", "locked.rs"] two.code ∧
      ∃ both, run mixedFolder ["check", "drain.rs", "broken.rs", "locked.rs"] = .ok both ∧
        Answers mixedFolder {} (["drain.rs"] ++ ["broken.rs", "locked.rs"]) both.code ∧
        both.code = max one.code two.code := by
  have proper : mixedFolder.system.tree.Proper := by
    refine .directory (by decide) (by decide +kernel) (by decide +kernel) fun entry member => ?_
    simp only [List.mem_cons, List.not_mem_nil, or_false] at member
    rcases member with rfl | rfl | rfl
    · exact .file
    · exact .file
    · exact .locked
  have plain : ∀ path ∈ ["drain.rs", "broken.rs", "locked.rs"], Plain path := by
    unfold Plain
    decide +kernel
  have asks (paths : List String) (some_path : paths ≠ [])
      (among : ∀ path ∈ paths, path ∈ ["drain.rs", "broken.rs", "locked.rs"]) :
      Request.ofArgs ("check" :: paths) = .ok (.act {} (.check paths)) :=
    ofArgs_check some_path fun path member => plain path (among path member)
  have present : ∀ path ∈ ["drain.rs", "broken.rs", "locked.rs"],
      isMissing mixedFolder.system path = .ok false := by
    intro path member
    simp only [List.mem_cons, List.not_mem_nil, or_false] at member
    rcases member with rfl | rfl | rfl <;> rfl
  have runs (paths : List String) (some_path : paths ≠ [])
      (among : ∀ path ∈ paths, path ∈ ["drain.rs", "broken.rs", "locked.rs"]) :
      ∃ outcome, run mixedFolder ("check" :: paths) = .ok outcome := by
    simp only [run, asks paths some_path among]
    have accepted : settings mixedFolder {} = .ok {} := rfl
    exact exists_perform accepted rfl rfl fun path member => present path (among path member)
  obtain ⟨one, ranFirst⟩ := runs ["drain.rs"] (by simp) (by simp)
  obtain ⟨two, ranSecond⟩ := runs ["broken.rs", "locked.rs"] (by simp) (by simp)
  have noStdin : "-" ∉ ["drain.rs"] ++ ["broken.rs", "locked.rs"] := by decide
  have asksFirst := asks ["drain.rs"] (by simp) (by simp)
  have asksSecond := asks ["broken.rs", "locked.rs"] (by simp) (by simp)
  have asksBoth := asks ["drain.rs", "broken.rs", "locked.rs"] (by simp) (by simp)
  exact ⟨proper, noStdin, asksFirst, asksSecond, asksBoth, one, two, ranFirst, ranSecond,
    exit_codes_join proper noStdin asksFirst asksSecond asksBoth ranFirst ranSecond⟩

/-! ### A check without an exit code -/

/-- A name of some letters. -/
def letters (count : Nat) : String := String.ofList (List.replicate count 'a')

section Letters

variable {count : Nat}

theorem toList_letters : (letters count).toList = List.replicate count 'a' := String.toList_ofList

theorem size_letters (count : Nat) : (letters count).utf8ByteSize = count := by
  unfold letters
  induction count with
  | zero => rfl
  | succ count inductionHypothesis =>
    have letter : 'a'.utf8Size = 1 := rfl
    rw [List.replicate_succ, String.ofList_cons, String.utf8ByteSize_append, inductionHypothesis,
      String.utf8ByteSize_singleton, letter, Nat.add_comm]

theorem letters_ne {text : String} (differs : count ≠ text.utf8ByteSize) : letters count ≠ text := by
  rintro rfl
  exact differs (size_letters count).symm

theorem ofText_letters (long : 1 < count) :
    FileName.ofText (letters count) = ⟨"", [letters count]⟩ := by
  have proper : FileName.Proper ⟨"", [letters count]⟩ := by
    refine ⟨.inl rfl, fun part member => ?_⟩
    rw [List.mem_singleton.mp member]
    refine ⟨letters_ne ?_, letters_ne ?_, by simp [toList_letters]⟩
    · exact Nat.ne_of_gt (Nat.lt_trans Nat.zero_lt_one long)
    · exact Nat.ne_of_gt long
  have text : FileName.text ⟨"", [letters count]⟩ = letters count := by
    simp [FileName.text]
  have back := FileName.ofText_text proper
  rwa [text] at back

/-- A name of more letters than a directory can hold cannot be asked for. -/
theorem isMissing_letters {entries : List (String × FileTree)} (long : maxPartBytes < count)
    (short : count ≤ maxNameBytes) : isMissing ⟨.directory entries, []⟩ (letters count) =
      .error (.file .nameTooLong (FileName.ofText (letters count))) := by
  have several : 2 < count := Nat.lt_trans (by decide) long
  have name := ofText_letters (Nat.lt_trans (by decide) several)
  have noNul : FileName.hasNul ⟨"", [letters count]⟩ = false := by
    simp [FileName.hasNul, toList_letters]
  have notStdin : letters count ≠ "-" := letters_ne (Nat.ne_of_gt (Nat.lt_trans (by decide) several))
  have notUp : letters count ≠ ".." := letters_ne (Nat.ne_of_gt several)
  have text : FileName.text ⟨"", [letters count]⟩ = letters count := by
    simp [FileName.text]
  have place : FileSystem.place ⟨.directory entries, []⟩ ⟨"", [letters count]⟩ =
      .error .nameTooLong := by
    unfold FileSystem.place
    rw [text, size_letters, if_neg (Nat.not_lt.mpr short)]
    simp [FileName.isAbsolute, Place.walk, Place.step, notUp, size_letters, long]
  unfold isMissing
  rw [if_neg notStdin, name]
  simp only [noNul, place]
  rfl

theorem plain_letters (count : Nat) : Plain (letters count) := by
  unfold Plain
  rw [toList_letters]
  cases count <;> simp [List.replicate_succ]

end Letters

/-- A check has no exit code if it cannot be told whether some path leads anywhere. -/
theorem run_check_of_error {paths : List String} {crash : Crash} (some_path : paths ≠ [])
    (plain : ∀ path ∈ paths, Plain path)
    (looked : missingPaths mixedFolder.system paths = .error crash) :
    run mixedFolder ("check" :: paths) = .error crash := by
  have accepted : settings mixedFolder {} = .ok {} := rfl
  have known : unknownCheckers .builtin {} = [] := rfl
  simp only [run, ofArgs_check some_path plain, perform, accepted, checkFiles, known, looked]
  rfl

/-- A check of a path whose name is too long to be asked for has no exit code, alone or together with
a path that is there. -/
theorem check_crashes_longName :
    (run mixedFolder ["check", letters 256] =
      .error (.file .nameTooLong (FileName.ofText (letters 256)))) ∧
    (run mixedFolder ["check", "drain.rs", letters 256] =
      .error (.file .nameTooLong (FileName.ofText (letters 256)))) := by
  have long : isMissing mixedFolder.system (letters 256) =
      .error (.file .nameTooLong (FileName.ofText (letters 256))) :=
    isMissing_letters (by decide) (by decide)
  have present : isMissing mixedFolder.system "drain.rs" = .ok false := rfl
  have plain := plain_letters 256
  have plainToo : Plain "drain.rs" := by
    unfold Plain
    decide +kernel
  constructor
  · refine run_check_of_error (by simp) (by simpa using plain) ?_
    simp only [missingPaths, List.filterM, List.filterAuxM, long]
    rfl
  · refine run_check_of_error (by simp) (by simpa using ⟨plainToo, plain⟩) ?_
    simp only [missingPaths, List.filterM, List.filterAuxM, long, present]
    rfl

end Command
end DrainLint
