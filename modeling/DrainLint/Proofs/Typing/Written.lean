import DrainLint.Typing.Infer

/-! # What the inference writes down

The inference only ever adds to its tables of types and callees, and keeps the first fault that it
notes.  What a step adds does not depend on what is there already, so steps are looked at one by one
and put together.

- `Writes`: a step adds entries that are as wanted;
- `Quiet`: a step that does no more than read types and note alias chains;
- `Silent`: a step that adds no types and no callees and finds no fault;
- `bindPattern_silent`, `pathType_silent`, …: the steps that declare variables or refer to them.
-/

namespace DrainLint.Typing

open Hir Check

/-- Entries added to the tables, the last one first, with the first fault noted meanwhile. -/
structure Written where
  types : List (Nat × SemTy)
  callees : List (Nat × Path)
  fault? : Option IndexFault

namespace Written

def nothing : Written := ⟨[], [], none⟩

/-- What was written first, with more written after it. -/
def followedBy (earlier later : Written) : Written :=
  ⟨later.types ++ earlier.types, later.callees ++ earlier.callees, earlier.fault?.or later.fault?⟩

theorem nothing_followedBy (written : Written) : nothing.followedBy written = written := by
  simp [nothing, followedBy]

theorem followedBy_nothing (written : Written) : written.followedBy nothing = written := by
  simp [nothing, followedBy]

end Written

variable {α β : Type}

/-- A step that adds entries to the tables, which are as wanted for the value it comes to. -/
def Writes (step : Check α) (wanted : α → Written → Prop) : Prop :=
  ∀ state, ∃ written, wanted (step.run state).1 written ∧
    (step.run state).2.tables.types = written.types ++ state.tables.types ∧
    (step.run state).2.tables.callees = written.callees ++ state.tables.callees ∧
    (step.run state).2.fault? = state.fault?.or written.fault?

/-- A step that adds no entries to the tables of types and callees and notes no fault. -/
def Silent (step : Check α) : Prop :=
  ∀ state, (step.run state).2.tables.types = state.tables.types ∧
    (step.run state).2.tables.callees = state.tables.callees ∧
    (step.run state).2.fault? = state.fault?

/-- A step that changes neither the tables nor the scopes and notes no fault. -/
def Quiet (step : Check α) : Prop :=
  ∀ state, (step.run state).2.tables = state.tables ∧ (step.run state).2.scopes = state.scopes ∧
    (step.run state).2.fault? = state.fault?

namespace Writes

variable {step : Check α} {wanted : α → Written → Prop}

theorem pure {value : α} (holds : wanted value .nothing) :
    Writes (Pure.pure value : Check α) wanted :=
  fun _ => ⟨.nothing, holds, rfl, rfl, (Option.or_none).symm⟩

theorem bind {next : α → Check β} {middle : α → Written → Prop} {wanted : β → Written → Prop}
    (first : Writes step middle)
    (second : ∀ value earlier, middle value earlier →
      Writes (next value) fun result later => wanted result (earlier.followedBy later)) :
    Writes (step >>= next) wanted := by
  intro state
  obtain ⟨earlier, holds, types, callees, fault⟩ := first state
  obtain ⟨later, holds', types', callees', fault'⟩ := second _ earlier holds (step.run state).2
  refine ⟨earlier.followedBy later, holds', ?_, ?_, ?_⟩
  · show ((next (step.run state).1).run (step.run state).2).2.tables.types = _
    rw [types', types, Written.followedBy, List.append_assoc]
  · show ((next (step.run state).1).run (step.run state).2).2.tables.callees = _
    rw [callees', callees, Written.followedBy, List.append_assoc]
  · show ((next (step.run state).1).run (step.run state).2).2.fault? = _
    rw [fault', fault, Written.followedBy, Option.or_assoc]

theorem weaken {wanted' : α → Written → Prop} (writes : Writes step wanted)
    (weaker : ∀ value written, wanted value written → wanted' value written) :
    Writes step wanted' := by
  intro state
  obtain ⟨written, holds, same⟩ := writes state
  exact ⟨written, weaker _ _ holds, same⟩

theorem silent_bind {next : α → Check β} {wanted : β → Written → Prop} (silent : Silent step)
    (second : ∀ value, Writes (next value) wanted) : Writes (step >>= next) wanted := by
  have first : Writes step fun _ written => written = .nothing := by
    intro state
    obtain ⟨types, callees, fault⟩ := silent state
    exact ⟨.nothing, rfl, types, callees, by rw [fault, Written.nothing, Option.or_none]⟩
  -- A silent step writes the empty entries, which vanish in front of others.
  apply first.bind
  rintro value _ rfl
  simp only [Written.nothing_followedBy]
  exact second value

theorem inScope (writes : Writes step wanted) : Writes (Check.inScope step) wanted :=
  fun state => writes { state with scopes := [] :: state.scopes }

theorem inBody (writes : Writes step wanted) : Writes (Check.inBody step) wanted :=
  fun state => writes { state with scopes := [[]] }

theorem typed {id : Nat} {step : Check SemTy} {wanted : SemTy → Written → Prop}
    (writes : Writes step fun ty written =>
      wanted ty ⟨(id, ty) :: written.types, written.callees, written.fault?⟩) :
    Writes (Check.typed id step) wanted := by
  intro state
  obtain ⟨written, holds, types, kept⟩ := writes state
  refine ⟨⟨(id, (step.run state).1) :: written.types, written.callees, written.fault?⟩, holds, ?_,
    kept⟩
  show (id, (step.run state).1) :: (step.run state).2.tables.types = _
  rw [types, List.cons_append]

end Writes

/-! ## Steps that only read -/

namespace Quiet

variable {step : Check α}

theorem pure (value : α) : Quiet (Pure.pure value : Check α) := fun _ => ⟨rfl, rfl, rfl⟩

theorem bind {next : α → Check β} (first : Quiet step) (second : ∀ value, Quiet (next value)) :
    Quiet (step >>= next) := by
  intro state
  obtain ⟨tables, scopes, fault⟩ := first state
  obtain ⟨tables', scopes', fault'⟩ := second (step.run state).1 (step.run state).2
  exact ⟨tables'.trans tables, scopes'.trans scopes, fault'.trans fault⟩

theorem silent (quiet : Quiet step) : Silent step := by
  intro state
  obtain ⟨tables, _, fault⟩ := quiet state
  exact ⟨congrArg Tables.types tables, congrArg Tables.callees tables, fault⟩

end Quiet

theorem noteDeep_quiet (paths : List Path) : Quiet (noteDeep paths) := fun _ => ⟨rfl, rfl, rfl⟩

section

variable (table : MethodTable) (env : TypeEnv)

theorem lower_quiet (ty : Ty) : Quiet (lower table env ty) :=
  .bind (noteDeep_quiet _) fun _ => .pure _

theorem lower?_quiet (ty : Option Ty) : Quiet (lower? table env ty) := by
  cases ty with
  | none => exact .pure _
  | some ty => exact lower_quiet table env ty

theorem lowerAll_quiet (tys : List Ty) : Quiet (lowerAll table env tys) := by
  induction tys with
  | nil => exact .pure _
  | cons ty tys inductionHypothesis =>
    exact .bind (lower_quiet table env ty) fun _ => .bind inductionHypothesis fun _ => .pure _

theorem namedType_quiet (segments : Path) (args : List SemTy) :
    Quiet (namedType table segments args) :=
  .bind (noteDeep_quiet _) fun _ => .pure _

theorem resultType_quiet (result : ResultTy) : Quiet (resultType table result) :=
  .bind (noteDeep_quiet _) fun _ => .pure _

theorem constantType_quiet (segments : Path) : Quiet (constantType table env segments) := by
  unfold constantType
  split
  · split
    · exact .pure _
    · split
      · exact .pure _
      · exact lower_quiet table env _
  · exact .pure _

theorem ownerType_quiet (segments : Path) (genericArgs : List Ty) :
    Quiet (ownerType table env segments genericArgs) := by
  unfold ownerType
  split
  · exact .pure _
  · exact .bind (lowerAll_quiet table env genericArgs) fun _ => namedType_quiet table _ _

/-- The type of a struct literal. -/
theorem literalType_quiet (path : Path) :
    Quiet (if path = ["Self"] then Pure.pure (selfType env) else namedType table path []) := by
  split
  · exact .pure _
  · exact namedType_quiet table path []

end

/-! ## Steps that write no types and no callees -/

namespace Silent

variable {step : Check α}

theorem pure (value : α) : Silent (Pure.pure value : Check α) := fun _ => ⟨rfl, rfl, rfl⟩

theorem bind {next : α → Check β} (first : Silent step) (second : ∀ value, Silent (next value)) :
    Silent (step >>= next) := by
  intro state
  obtain ⟨types, callees, fault⟩ := first state
  obtain ⟨types', callees', fault'⟩ := second (step.run state).1 (step.run state).2
  exact ⟨types'.trans types, callees'.trans callees, fault'.trans fault⟩

end Silent

theorem recordBinding_silent (id binding : Nat) : Silent (recordBinding id binding) :=
  fun _ => ⟨rfl, rfl, rfl⟩

theorem findLocal_silent (name : String) : Silent (findLocal name) := fun _ => ⟨rfl, rfl, rfl⟩

theorem declare_silent (name : String) (known : Local) : Silent (declare name known) := by
  intro state
  obtain ⟨tables, scopes, notes, fault?⟩ := state
  cases scopes <;> exact ⟨rfl, rfl, rfl⟩

section

variable (table : MethodTable) (env : TypeEnv)

mutual

theorem bindPattern_silent (ty : SemTy) (pat : Pat) : Silent (bindPattern table ty pat) := by
  cases pat with
  | binding origin name isMut byRef sub =>
    cases sub with
    | none => exact .bind (declare_silent _ _) fun _ => .pure _
    | some sub => exact .bind (declare_silent _ _) fun _ => bindPattern_silent ty sub
  | ref origin isMut inner => exact bindPattern_silent _ inner
  | tuple origin elems => exact bindPatterns_silent _ elems
  | tupleStruct origin path elems => exact bindPatterns_silent _ elems
  | slice origin elems => exact bindPatterns_silent _ elems
  | or origin alts => exact bindPatterns_silent _ alts
  | wild | rest | struct | path | lit => exact .pure _

theorem bindPatterns_silent (tys : List SemTy) (pats : List Pat) :
    Silent (bindPatterns table tys pats) := by
  cases pats with
  | nil => exact .pure _
  | cons pat pats => exact .bind (bindPattern_silent _ pat) fun _ => bindPatterns_silent _ pats

end

theorem pathType_silent (id : Nat) (segments : Path) : Silent (pathType table env id segments) := by
  unfold pathType
  split
  · apply Silent.bind (findLocal_silent _)
    intro known?
    cases known? with
    | none => exact (constantType_quiet table env _).silent
    | some known => exact .bind (recordBinding_silent _ _) fun _ => .pure _
  · exact .pure _

theorem pathCallee?_silent (id : Nat) (segments : Path) (genericArgs : List Ty)
    (args : List SemTy) : Silent (pathCallee? table env id segments genericArgs args) := by
  unfold pathCallee?
  split
  · apply Silent.bind (findLocal_silent _)
    intro known?
    cases known? with
    | none => exact .pure _
    | some known => exact .bind (recordBinding_silent _ _) fun _ => .pure _
  · apply Silent.bind (ownerType_quiet table env _ _).silent
    intro owner
    split <;> exact .pure _

end

end DrainLint.Typing
