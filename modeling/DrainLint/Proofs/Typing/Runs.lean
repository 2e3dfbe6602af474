import DrainLint.Proofs.Typing.Written
import Mathlib.Data.List.Perm.Subperm

/-! # Runs of the inference

What a step writes down does not depend on what was written down before it, and what it comes to
depends on the open scopes only.  So steps can be told alike by what they do, up to the order of
what they write down.

- `Run`, `Runs`: what a step comes to and what it writes down, for the scopes that it starts in;
- `AlikeBy`, `Alike`: two steps that come to the same and write down the same, in some order;
- `AlikeBy.bind` and the lemmas beside it: steps that are alike as their parts are;
- `Keeps`, `AlikeBy.swap`: steps that leave the scopes alone are done in either order.
-/

namespace DrainLint.Typing

open Hir Check List

variable {α β γ δ : Type}

/-! ## What a step does -/

/-- What a step comes to: its value, the scopes after it, the entries that it adds to the tables, the
last one first, and whether it notes a fault. -/
structure Run (α : Type) where
  value : α
  scopes : List Scope
  types : List (Nat × SemTy) := []
  callees : List (Nat × Path) := []
  bindings : List (Nat × Nat) := []
  isFaulty : Bool := false

/-- Where a run leads from a state, whatever is written down there. -/
structure Run.Leads (run : Run α) (before : State) (result : α × State) : Prop where
  value : result.1 = run.value
  scopes : result.2.scopes = run.scopes
  types : result.2.tables.types = run.types ++ before.tables.types
  callees : result.2.tables.callees = run.callees ++ before.tables.callees
  bindings : result.2.tables.bindings = run.bindings ++ before.tables.bindings
  fault : result.2.fault?.isSome = (before.fault?.isSome || run.isFaulty)

/-- What a step does when it starts in some scopes. -/
def Runs (step : Check α) (start : List Scope) (run : Run α) : Prop :=
  ∀ state, state.scopes = start → run.Leads state (step.run state)

/-- What a step comes to and then the next. -/
def Run.followedBy (earlier : Run α) (later : Run β) : Run β :=
  ⟨later.value, later.scopes, later.types ++ earlier.types, later.callees ++ earlier.callees,
    later.bindings ++ earlier.bindings, earlier.isFaulty || later.isFaulty⟩

namespace Runs

variable {step : Check α} {next : α → Check β} {start : List Scope} {run : Run α} {later : Run β}

theorem bind (first : Runs step start run) (second : Runs (next run.value) run.scopes later) :
    Runs (step >>= next) start (run.followedBy later) := by
  intro state isStart
  have earlier := first state isStart
  have after : (step >>= next).run state = (next run.value).run (step.run state).2 := by
    rw [← earlier.value]
    rfl
  rw [after]
  obtain ⟨value, scopes, types, callees, bindings, fault⟩ := second _ earlier.scopes
  refine ⟨value, scopes, ?_, ?_, ?_, ?_⟩
  · rw [types, earlier.types, Run.followedBy, append_assoc]
  · rw [callees, earlier.callees, Run.followedBy, append_assoc]
  · rw [bindings, earlier.bindings, Run.followedBy, append_assoc]
  · rw [fault, earlier.fault, Run.followedBy, Bool.or_assoc]

theorem pure (value : α) (start : List Scope) :
    Runs (Pure.pure value) start { value, scopes := start } := by
  rintro state rfl
  exact ⟨rfl, rfl, rfl, rfl, rfl, (Bool.or_false _).symm⟩

theorem typed {id : Nat} {step : Check SemTy} {run : Run SemTy} (runs : Runs step start run) :
    Runs (Check.typed id step) start { run with types := (id, run.value) :: run.types } := by
  intro state isStart
  obtain ⟨value, scopes, types, callees, bindings, fault⟩ := runs state isStart
  have entry : (id, (step.run state).1) = (id, run.value) := by rw [value]
  exact ⟨value, scopes, congrArg₂ List.cons entry types, callees, bindings, fault⟩

theorem inScope (runs : Runs step ([] :: start) run) :
    Runs (Check.inScope step) start { run with scopes := run.scopes.drop 1 } := by
  rintro state rfl
  obtain ⟨value, scopes, types, callees, bindings, fault⟩ :=
    runs { state with scopes := [] :: state.scopes } rfl
  exact ⟨value, congrArg (List.drop 1) scopes, types, callees, bindings, fault⟩

theorem inBody (runs : Runs step [[]] run) :
    Runs (Check.inBody step) start { run with scopes := start } := by
  rintro state rfl
  obtain ⟨value, _, types, callees, bindings, fault⟩ := runs { state with scopes := [[]] } rfl
  exact ⟨value, rfl, types, callees, bindings, fault⟩

/-- A step does one thing when it starts in some scopes. -/
theorem unique {other : Run α} (first : Runs step start run) (second : Runs step start other) :
    run = other := by
  obtain ⟨value, scopes, types, callees, bindings, fault⟩ := first { scopes := start } rfl
  obtain ⟨value', scopes', types', callees', bindings', fault'⟩ := second { scopes := start } rfl
  rw [append_nil] at types callees bindings types' callees' bindings'
  rw [Option.isSome_none, Bool.false_or] at fault fault'
  obtain ⟨_, _, _, _, _, _⟩ := run
  obtain ⟨_, _, _, _, _, _⟩ := other
  simp only at value scopes types callees bindings fault value' scopes' types' callees' bindings' fault'
  rw [← value, ← scopes, ← types, ← callees, ← bindings, ← fault, value', scopes', types', callees',
    bindings', fault']

end Runs

/-! ## Steps that are alike -/

/-- Runs that come to related values and write down the same, in some order. -/
structure SameRun (related : α → β → Prop) (run : Run α) (run' : Run β) : Prop where
  value : related run.value run'.value
  scopes : run.scopes = run'.scopes
  types : run.types ~ run'.types
  callees : run.callees ~ run'.callees
  bindings : run.bindings ~ run'.bindings
  isFaulty : run.isFaulty = run'.isFaulty

/-- A run that writes down callees for nodes of which it writes down the types, but for some. -/
def Owes (owed : List Nat) (run : Run α) : Prop :=
  run.callees.map Prod.fst <+~ owed ++ run.types.map Prod.fst

theorem Owes.followedBy {owed owed' : List Nat} {run : Run α} {later : Run β} (owes : Owes owed run)
    (owesLater : Owes owed' later) : Owes (owed ++ owed') (run.followedBy later) := by
  unfold Owes Run.followedBy
  rw [map_append, map_append]
  refine (owesLater.append owes).trans (Perm.subperm ?_)
  -- Later entries stand in front; what is owed is gathered before all types.
  calc (owed' ++ later.types.map Prod.fst) ++ (owed ++ run.types.map Prod.fst)
      ~ (owed ++ run.types.map Prod.fst) ++ (owed' ++ later.types.map Prod.fst) :=
        perm_append_comm
    _ = owed ++ (run.types.map Prod.fst ++ (owed' ++ later.types.map Prod.fst)) :=
        append_assoc _ _ _
    _ ~ owed ++ (owed' ++ (run.types.map Prod.fst ++ later.types.map Prod.fst)) :=
        (perm_append_comm_assoc _ _ _).append_left _
    _ = (owed ++ owed') ++ (run.types.map Prod.fst ++ later.types.map Prod.fst) :=
        (append_assoc _ _ _).symm
    _ ~ (owed ++ owed') ++ (later.types.map Prod.fst ++ run.types.map Prod.fst) :=
        perm_append_comm.append_left _

/-- Steps that come to related values from the same scopes, and write down the same, in some order.
The types of some nodes are still owed. -/
def AlikeBy (related : α → β → Prop) (owed : List Nat) (step : Check α) (step' : Check β) : Prop :=
  ∀ start, ∃ run run', Runs step start run ∧ Runs step' start run' ∧ SameRun related run run' ∧
    Owes owed run

/-- Steps that come to the same and write down the same, in some order. -/
abbrev Alike (step step' : Check α) : Prop := AlikeBy Eq [] step step'

namespace AlikeBy

variable {related : α → β → Prop} {related' : γ → δ → Prop} {owed owed' : List Nat}
  {step : Check α} {step' : Check β} {next : α → Check γ} {next' : β → Check δ}

theorem bind_related (first : AlikeBy related owed step step')
    (second : ∀ value value', related value value' →
      AlikeBy related' owed' (next value) (next' value')) :
    AlikeBy related' (owed ++ owed') (step >>= next) (step' >>= next') := by
  intro start
  obtain ⟨run, run', runs, runs', same, owes⟩ := first start
  obtain ⟨later, later', runsLater, runsLater', sameLater, owesLater⟩ :=
    second _ _ same.value run.scopes
  refine ⟨run.followedBy later, run'.followedBy later', runs.bind runsLater,
    runs'.bind (same.scopes ▸ runsLater'), ?_, ?_⟩
  · exact ⟨sameLater.value, sameLater.scopes, sameLater.types.append same.types,
      sameLater.callees.append same.callees, sameLater.bindings.append same.bindings,
      by rw [Run.followedBy, Run.followedBy, same.isFaulty, sameLater.isFaulty]⟩
  · exact owes.followedBy owesLater

theorem weaken (alike : AlikeBy related owed step step') (more : owed <+~ owed') :
    AlikeBy related owed' step step' := by
  intro start
  obtain ⟨run, run', runs, runs', same, owes⟩ := alike start
  exact ⟨run, run', runs, runs', same, owes.trans (more.append (.refl _))⟩

theorem pure_related {value : α} {value' : β} (same : related value value') :
    AlikeBy related [] (Pure.pure value) (Pure.pure value') := fun start =>
  ⟨_, _, .pure value start, .pure value' start, ⟨same, rfl, .nil, .nil, .nil, rfl⟩, nil_subperm⟩

end AlikeBy

/-- A step is like itself where it does one thing for the scopes that it starts in. -/
theorem Runs.alike {owed : List Nat} {step : Check α}
    (runs : ∀ start, ∃ run, Runs step start run ∧ Owes owed run) : AlikeBy Eq owed step step := by
  intro start
  obtain ⟨run, runs, owes⟩ := runs start
  exact ⟨run, run, runs, runs, ⟨rfl, rfl, .refl _, .refl _, .refl _, rfl⟩, owes⟩

namespace AlikeBy

variable {step step' step'' : Check α} {related : β → γ → Prop} {owed : List Nat}

theorem bind {next : α → Check β} {next' : α → Check γ} (first : Alike step step')
    (second : ∀ value, AlikeBy related owed (next value) (next' value)) :
    AlikeBy related owed (step >>= next) (step' >>= next') :=
  bind_related first fun value _ same => same ▸ second value

theorem pure (value : α) : Alike (Pure.pure value) (Pure.pure value) := pure_related rfl

theorem bind_pure {value : α → β} (first : Alike step step') :
    Alike (step >>= fun result => Pure.pure (value result))
      (step' >>= fun result => Pure.pure (value result)) :=
  bind first fun _ => pure _

theorem symm (alike : Alike step step') : Alike step' step := by
  intro start
  obtain ⟨run, run', runs, runs', same, owes⟩ := alike start
  refine ⟨run', run, runs', runs, ?_, ?_⟩
  · exact ⟨same.value.symm, same.scopes.symm, same.types.symm, same.callees.symm,
      same.bindings.symm, same.isFaulty.symm⟩
  · exact (same.callees.symm.map Prod.fst).subperm.trans
      (owes.trans (same.types.map Prod.fst).subperm)

theorem trans (first : Alike step step') (second : Alike step' step'') : Alike step step'' := by
  intro start
  obtain ⟨run, run', runs, runs', same, owes⟩ := first start
  obtain ⟨again, run'', runsAgain, runs'', same', _⟩ := second start
  -- The step in the middle has one run, so the two comparisons meet there.
  obtain rfl := runs'.unique runsAgain
  exact ⟨run, run'', runs, runs'', ⟨same.value.trans same'.value, same.scopes.trans same'.scopes,
    same.types.trans same'.types, same.callees.trans same'.callees,
    same.bindings.trans same'.bindings, same.isFaulty.trans same'.isFaulty⟩, owes⟩

/-- The type of a node pays for its callee. -/
theorem typed {id : Nat} {step step' : Check SemTy} (alike : AlikeBy Eq [id] step step') :
    Alike (Check.typed id step) (Check.typed id step') := by
  intro start
  obtain ⟨run, run', runs, runs', same, owes⟩ := alike start
  refine ⟨_, _, runs.typed, runs'.typed, ?_, owes⟩
  exact ⟨same.value, same.scopes, same.value ▸ same.types.cons _, same.callees, same.bindings,
    same.isFaulty⟩

/-- A node that calls nothing owes nothing. -/
theorem typed_plain {id : Nat} {step step' : Check SemTy} (alike : Alike step step') :
    Alike (Check.typed id step) (Check.typed id step') :=
  typed (alike.weaken nil_subperm)

theorem inScope (alike : Alike step step') : Alike (Check.inScope step) (Check.inScope step') := by
  intro start
  obtain ⟨run, run', runs, runs', same, owes⟩ := alike ([] :: start)
  exact ⟨_, _, runs.inScope, runs'.inScope, ⟨same.value, congrArg (List.drop 1) same.scopes,
    same.types, same.callees, same.bindings, same.isFaulty⟩, owes⟩

theorem inBody (alike : Alike step step') : Alike (Check.inBody step) (Check.inBody step') := by
  intro start
  obtain ⟨run, run', runs, runs', same, owes⟩ := alike [[]]
  exact ⟨_, _, runs.inBody, runs'.inBody,
    ⟨same.value, rfl, same.types, same.callees, same.bindings, same.isFaulty⟩, owes⟩

end AlikeBy

/-! ## Steps that are like themselves -/

theorem recordType_alike (id : Nat) (ty : SemTy) : Alike (recordType id ty) (recordType id ty) := by
  refine Runs.alike fun start => ⟨⟨(), start, [(id, ty)], [], [], false⟩, ?_, nil_subperm⟩
  rintro state rfl
  exact ⟨rfl, rfl, rfl, rfl, rfl, (Bool.or_false _).symm⟩

theorem recordCallee_alike (id : Nat) (path : Path) :
    AlikeBy Eq [id] (recordCallee id path) (recordCallee id path) := by
  refine Runs.alike fun start => ⟨⟨(), start, [], [(id, path)], [], false⟩, ?_, .refl _⟩
  rintro state rfl
  exact ⟨rfl, rfl, rfl, rfl, rfl, (Bool.or_false _).symm⟩

theorem recordBinding_alike (id binding : Nat) :
    Alike (recordBinding id binding) (recordBinding id binding) := by
  refine Runs.alike fun start => ⟨⟨(), start, [], [], [(id, binding)], false⟩, ?_, nil_subperm⟩
  rintro state rfl
  exact ⟨rfl, rfl, rfl, rfl, rfl, (Bool.or_false _).symm⟩

theorem declare_alike (name : String) (known : Local) :
    Alike (declare name known) (declare name known) := by
  refine Runs.alike fun start => ?_
  cases start with
  | nil =>
    refine ⟨⟨(), [[(name, known)]], [], [], [], false⟩, ?_, nil_subperm⟩
    rintro ⟨tables, _, notes, fault?⟩ rfl
    exact ⟨rfl, rfl, rfl, rfl, rfl, (Bool.or_false _).symm⟩
  | cons scope outer =>
    refine ⟨⟨(), ((name, known) :: scope) :: outer, [], [], [], false⟩, ?_, nil_subperm⟩
    rintro ⟨tables, _, notes, fault?⟩ rfl
    exact ⟨rfl, rfl, rfl, rfl, rfl, (Bool.or_false _).symm⟩

theorem findLocal_alike (name : String) : Alike (findLocal name) (findLocal name) := by
  refine Runs.alike fun start =>
    ⟨⟨start.findSome? fun scope => List.lookup name scope, start, [], [], [], false⟩, ?_,
      nil_subperm⟩
  rintro state rfl
  exact ⟨rfl, rfl, rfl, rfl, rfl, (Bool.or_false _).symm⟩

theorem noteFault_alike (fault : IndexFault) : Alike (noteFault fault) (noteFault fault) := by
  refine Runs.alike fun start => ⟨⟨(), start, [], [], [], true⟩, ?_, nil_subperm⟩
  rintro ⟨tables, _, notes, fault?⟩ rfl
  cases fault? <;> exact ⟨rfl, rfl, rfl, rfl, rfl, rfl⟩

/-- What is noted about chains of aliases is not looked at. -/
theorem noteDeep_alike (paths paths' : List Path) : Alike (noteDeep paths) (noteDeep paths') := by
  have runs (start : List Scope) (noted : List Path) :
      Runs (noteDeep noted) start { value := (), scopes := start } := by
    rintro state rfl
    exact ⟨rfl, rfl, rfl, rfl, rfl, (Bool.or_false _).symm⟩
  exact fun start => ⟨_, _, runs start paths, runs start paths',
    ⟨rfl, rfl, .nil, .nil, .nil, rfl⟩, nil_subperm⟩

/-! ## Steps in another order -/

/-- A step after which the open scopes are those before it. -/
def Keeps (step : Check α) : Prop := ∀ state, (step.run state).2.scopes = state.scopes

theorem Keeps.pure (value : α) : Keeps (Pure.pure value) := fun _ => rfl

theorem Keeps.bind {step : Check α} {next : α → Check β} (first : Keeps step)
    (second : ∀ value, Keeps (next value)) : Keeps (step >>= next) := fun state =>
  (second (step.run state).1 (step.run state).2).trans (first state)

theorem Keeps.inBody (step : Check α) : Keeps (Check.inBody step) := fun _ => rfl

theorem Keeps.scopes {step : Check α} {start : List Scope} {run : Run α} (keeps : Keeps step)
    (runs : Runs step start run) : run.scopes = start :=
  (runs { scopes := start } rfl).scopes.symm.trans (keeps _)

/-- Of two steps that leave the scopes alone, either may be the first one. -/
theorem AlikeBy.swap {first second : Check Unit} {rest : Check α} (first_self : Alike first first)
    (second_self : Alike second second) (rest_self : Alike rest rest) (first_keeps : Keeps first)
    (second_keeps : Keeps second) :
    Alike (do first; second; rest) (do second; first; rest) := by
  intro start
  obtain ⟨run, _, runs, _, _, owes⟩ := first_self start
  obtain ⟨run', _, runs', _, _, owes'⟩ := second_self start
  obtain ⟨later, _, runsLater, _, _, owesLater⟩ := rest_self start
  -- Whichever comes first, the other one starts in the same scopes.
  have scopes := first_keeps.scopes runs
  have scopes' := second_keeps.scopes runs'
  have both : Runs (do first; second; rest) start (run.followedBy (run'.followedBy later)) :=
    runs.bind (scopes ▸ runs'.bind (scopes' ▸ runsLater))
  have swapped : Runs (do second; first; rest) start (run'.followedBy (run.followedBy later)) :=
    runs'.bind (scopes' ▸ runs.bind (scopes ▸ runsLater))
  have entries {entry : Type} (last middle front : List entry) :
      (last ++ middle) ++ front ~ (last ++ front) ++ middle := by
    rw [append_assoc, append_assoc]
    exact perm_append_comm.append_left last
  exact ⟨_, _, both, swapped, ⟨rfl, rfl, entries _ _ _, entries _ _ _, entries _ _ _,
    Bool.or_left_comm _ _ _⟩, owes.followedBy (owes'.followedBy owesLater)⟩

end DrainLint.Typing
