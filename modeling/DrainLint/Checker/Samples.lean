import DrainLint.Checker.DrainLoop

/-! # Sample checkers

Checkers that show how checkers are written and what a run makes of them: one that takes the place
of another, one that fails, and one that counts.
-/

namespace DrainLint.Checker

/-- The checker of drain loops under its own name with other error ids; it takes the place of the
other one. -/
def twin : Checker := { drainLoop with implementation := "Twin", errorIds := ["twin"] }

def exploding : Checker where
  name := "exploding"
  implementation := "Exploding"
  description := ""
  errorIds := ["boom"]
  severity := .warning
  lint := ""
  readsTypes := false
  work _
    | .collect => { failure? := some "kaboom" }
    | .configure | .diagnose | .report => {}

namespace StmtCounter

/-- The statements of the bodies of the functions at the root of a crate, in order. -/
def rootStmts (crate : Hir.Crate) : List Hir.Stmt :=
  crate.items.flatMap fun item => match item with
    | .fnDef _ _ _ _ _ (some body) _ => body.stmts
    | _ => []

/-- The diagnostic of a statement; the first one is an error. -/
def diagnosticOf (source : SourceFile) (stmt : Hir.Stmt) (index : Nat) : Diagnostic :=
  Checker.diagnostic "statement-counter" "" "statementSeen" s!"statement {index}"
    (if index = 0 then .error else .information) source stmt.origin.span

end StmtCounter

/-- A checker that tells every statement of the functions at the root, with its number. -/
def stmtCounter : Checker where
  name := "statement-counter"
  implementation := "StmtCounter"
  description := ""
  errorIds := ["statementSeen", "whilePopUnwrap"]
  severity := .information
  lint := ""
  readsTypes := true
  work context
    | .diagnose =>
      { emitted := (StmtCounter.rootStmts context.crate).zipIdx.map fun (stmt, index) =>
          StmtCounter.diagnosticOf context.source stmt index }
    | .configure | .collect | .report => {}

theorem stmtCounter_staysInFile : stmtCounter.StaysInFile := by
  intro context phase diagnostic emitted
  cases phase with
  | diagnose =>
    obtain ⟨_, _, rfl⟩ := List.mem_map.mp emitted
    rfl
  | configure | collect | report => cases emitted

/-- The checkers of the program and the samples, by implementation. -/
def samples : List Checker := [drainLoop, twin, exploding, stmtCounter]

/-- The samples tell only of the file that they look at. -/
theorem samples_stayInFile : ∀ checker ∈ samples, checker.StaysInFile := by
  have exploding_stays : exploding.StaysInFile := by
    intro context phase diagnostic emitted
    cases phase <;> cases emitted
  simp only [samples, List.forall_mem_cons]
  exact ⟨drainLoop_staysInFile, drainLoop_staysInFile, exploding_stays, stmtCounter_staysInFile, nofun⟩

def ofImplementation? (implementation : String) : Option Checker :=
  samples.find? fun checker => checker.implementation == implementation

end DrainLint.Checker
