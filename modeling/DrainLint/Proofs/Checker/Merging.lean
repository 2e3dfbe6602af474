import DrainLint.Checker.Results
import Mathlib.Data.List.Basic

/-! # Merging results

Results are merged part by part: lists are appended, values of one name are put together, and a new
name comes after those that are known.  Merging may be done from either end.

- `Keyed.put`, `Keyed.putAll`: values added under their names, by an operation on values;
- `Keyed.putAll_putAll`: adding what was put together before;
- `Results.merge_assoc`: three results merged from either end.
-/

namespace DrainLint

namespace Keyed

variable {α : Type} {join : α → α → α} {name other : String} {value : α}
  {keyed kept more : Keyed α}

/-- Adds a value under a name: it is joined to the value that the name has. -/
def put (join : α → α → α) (keyed : Keyed α) (entry : String × α) : Keyed α :=
  modify entry.1 (fun old? => old?.elim entry.2 fun old => join old entry.2) keyed

/-- Adds values under their names, one after the other. -/
def putAll (join : α → α → α) (kept more : Keyed α) : Keyed α := more.foldl (put join) kept

theorem put_nil : put join [] (name, value) = [(name, value)] := rfl

theorem put_same {old : α} :
    put join ((name, old) :: keyed) (name, value) = (name, join old value) :: keyed := by
  simp [put, modify]

theorem put_other {old : α} (different : other ≠ name) :
    put join ((other, old) :: keyed) (name, value) =
      (other, old) :: put join keyed (name, value) := by
  simp [put, modify, different]

theorem mem_names_put : other ∈ (put join keyed (name, value)).names ↔
    other = name ∨ other ∈ keyed.names := by
  induction keyed with
  | nil => simp [put_nil, names]
  | cons entry keyed inductionHypothesis =>
    obtain ⟨first, old⟩ := entry
    by_cases same : first = name
    · subst same
      simp [put_same, names]
    · rw [put_other same]
      simp only [names, List.map_cons, List.mem_cons] at inductionHypothesis ⊢
      rw [inductionHypothesis]
      exact or_left_comm

theorem names_put_nodup (distinct : keyed.names.Nodup) :
    (put join keyed (name, value)).names.Nodup := by
  induction keyed with
  | nil => simp [put_nil, names]
  | cons entry keyed inductionHypothesis =>
    obtain ⟨first, old⟩ := entry
    obtain ⟨fresh, distinct⟩ := List.nodup_cons.mp distinct
    by_cases same : first = name
    · subst same
      rw [put_same]
      exact List.nodup_cons.mpr ⟨fresh, distinct⟩
    · rw [put_other same]
      refine List.nodup_cons.mpr ⟨fun again => ?_, inductionHypothesis distinct⟩
      rcases mem_names_put.mp again with isName | again
      · exact same isName
      · exact fresh again

theorem get?_put_self : get? name (put join keyed (name, value)) =
    some ((get? name keyed).elim value fun old => join old value) :=
  get?_modify_self name _ keyed

theorem get?_put_other (different : other ≠ name) :
    get? other (put join keyed (name, value)) = get? other keyed := by
  induction keyed with
  | nil => simp [put_nil, get?, List.lookup_cons, beq_false_of_ne different]
  | cons entry keyed inductionHypothesis =>
    obtain ⟨first, old⟩ := entry
    by_cases same : first = name
    · subst same
      simp [put_same, get?, List.lookup_cons, beq_false_of_ne different]
    · rw [put_other same, get?, get?, List.lookup_cons, List.lookup_cons]
      split
      · rfl
      · exact inductionHypothesis

/-- Lists under their names hold, in some order, what was added to them. -/
theorem flatMap_put_perm {β : Type} {keyed : Keyed (List β)} {value : List β} :
    ((put (· ++ ·) keyed (name, value)).flatMap Prod.snd).Perm
      (keyed.flatMap Prod.snd ++ value) := by
  induction keyed with
  | nil => simp [put_nil]
  | cons entry keyed inductionHypothesis =>
    obtain ⟨first, old⟩ := entry
    by_cases same : first = name
    · subst same
      rw [put_same, List.flatMap_cons, List.flatMap_cons, List.append_assoc, List.append_assoc]
      exact List.perm_append_comm.append_left old
    · rw [put_other same, List.flatMap_cons, List.flatMap_cons, List.append_assoc]
      exact inductionHypothesis.append_left old

theorem names_putAll_nodup (distinct : kept.names.Nodup) : (putAll join kept more).names.Nodup := by
  induction more generalizing kept with
  | nil => exact distinct
  | cons entry more inductionHypothesis => exact inductionHypothesis (names_put_nodup distinct)

/-- A value joined to one that was just added. -/
theorem put_put_same (assoc : ∀ a b c, join (join a b) c = join a (join b c)) {old : α} :
    put join (put join keyed (name, old)) (name, value) =
      put join keyed (name, join old value) := by
  induction keyed with
  | nil => rw [put_nil, put_same, put_nil]
  | cons entry keyed inductionHypothesis =>
    obtain ⟨first, older⟩ := entry
    by_cases same : first = name
    · subst same
      rw [put_same, put_same, put_same, assoc]
    · rw [put_other same, put_other same, put_other same, inductionHypothesis]

/-- A value for a name that is known may be added before one for another name: neither changes the
place of the other. -/
theorem put_put_other {old : α} (known : name ∈ names keyed) (different : other ≠ name) :
    put join (put join keyed (other, old)) (name, value) =
      put join (put join keyed (name, value)) (other, old) := by
  induction keyed with
  | nil => cases known
  | cons entry keyed inductionHypothesis =>
    obtain ⟨first, older⟩ := entry
    by_cases isName : first = name
    · subst isName
      rw [put_other different.symm, put_same, put_same, put_other different.symm]
    by_cases isOther : first = other
    · subst isOther
      rw [put_same, put_other isName, put_other isName, put_same]
    · have known : name ∈ names keyed := List.mem_of_ne_of_mem (Ne.symm isName) known
      rw [put_other isOther, put_other isName, put_other isName, put_other isOther,
        inductionHypothesis known]

theorem put_putAll (known : name ∈ names kept) (fresh : name ∉ names more) :
    put join (putAll join kept more) (name, value) =
      putAll join (put join kept (name, value)) more := by
  induction more generalizing kept with
  | nil => rfl
  | cons entry more inductionHypothesis =>
    obtain ⟨first, old⟩ := entry
    have different : first ≠ name := fun same => fresh (same ▸ List.mem_cons_self)
    have later : name ∉ names more := fun again => fresh (List.mem_cons_of_mem _ again)
    calc put join (putAll join (put join kept (first, old)) more) (name, value)
        = putAll join (put join (put join kept (first, old)) (name, value)) more :=
          inductionHypothesis (mem_names_put.mpr (.inr known)) later
      _ = putAll join (put join (put join kept (name, value)) (first, old)) more := by
          rw [put_put_other known different]

/-- What is put together before it is added is added as if it came later. -/
theorem putAll_put (assoc : ∀ a b c, join (join a b) c = join a (join b c))
    (distinct : more.names.Nodup) :
    putAll join kept (put join more (name, value)) =
      put join (putAll join kept more) (name, value) := by
  induction more generalizing kept with
  | nil => rfl
  | cons entry more inductionHypothesis =>
    obtain ⟨first, old⟩ := entry
    obtain ⟨fresh, distinct⟩ := List.nodup_cons.mp distinct
    by_cases same : first = name
    · subst same
      calc putAll join kept (put join ((first, old) :: more) (first, value))
          = putAll join (put join kept (first, join old value)) more := by rw [put_same]; rfl
        _ = putAll join (put join (put join kept (first, old)) (first, value)) more := by
            rw [put_put_same assoc]
        _ = put join (putAll join (put join kept (first, old)) more) (first, value) :=
            (put_putAll (mem_names_put.mpr (.inl rfl)) fresh).symm
    · rw [put_other same]
      exact inductionHypothesis distinct

/-- Adding what was put together before. -/
theorem putAll_putAll (assoc : ∀ a b c, join (join a b) c = join a (join b c)) {later : Keyed α}
    (distinct : more.names.Nodup) :
    putAll join kept (putAll join more later) = putAll join (putAll join kept more) later := by
  induction later generalizing more with
  | nil => rfl
  | cons entry later inductionHypothesis =>
    calc putAll join kept (putAll join (put join more entry) later)
        = putAll join (putAll join kept (put join more entry)) later :=
          inductionHypothesis (names_put_nodup distinct)
      _ = putAll join (put join (putAll join kept more) entry) later := by
          rw [putAll_put assoc distinct]

end Keyed

namespace Results

/-! ## The parts of results -/

theorem addOf_eq_put (name : String) (diagnostics : List Diagnostic)
    (byChecker : Keyed (List Diagnostic)) :
    addOf name diagnostics byChecker = Keyed.put (· ++ ·) byChecker (name, diagnostics) := by
  unfold addOf Keyed.put
  congr 1
  funext old?
  cases old? <;> simp

theorem addStat_eq_put (name : String) (count : Nat) (stats : Keyed Nat) :
    addStat name count stats = Keyed.put (· + ·) stats (name, count) := by
  unfold addStat Keyed.put
  congr 1
  funext old?
  cases old? <;> simp

theorem set_eq_put {α : Type} (name : String) (value : α) (keyed : Keyed α) :
    Keyed.set name value keyed = Keyed.put (fun _ new => new) keyed (name, value) := by
  unfold Keyed.set Keyed.put
  congr 1
  funext old?
  cases old? <;> rfl

theorem merge_eq (first second : Results) : first.merge second =
    { diagnostics := first.diagnostics ++ second.diagnostics
      byChecker := Keyed.putAll (· ++ ·) first.byChecker second.byChecker
      stats := Keyed.putAll (· + ·) first.stats second.stats
      checkerNames := addNames first.checkerNames second.checkerNames
      sources := Keyed.putAll (fun _ new => new) first.sources second.sources } := by
  simp only [merge, addOf_eq_put, addStat_eq_put, set_eq_put]
  rfl

theorem addNames_cons (known more : List String) (name : String) :
    addNames known (name :: more) = addNames (addNames known [name]) more := rfl

theorem mem_addNames {known more : List String} {name : String} :
    name ∈ addNames known more ↔ name ∈ known ∨ name ∈ more := by
  induction more generalizing known with
  | nil => simp [addNames]
  | cons first more inductionHypothesis =>
    have one : name ∈ addNames known [first] ↔ name ∈ known ∨ name = first := by
      by_cases listed : first ∈ known
      · have already : name = first → name ∈ known := fun same => same ▸ listed
        simpa [addNames, listed] using already
      · simp [addNames, listed]
    rw [addNames_cons, inductionHypothesis, one, List.mem_cons, or_assoc]

/-- A name that is known already is not listed again. -/
theorem addNames_known {known : List String} {name : String} (listed : name ∈ known) :
    addNames known [name] = known := by
  simp [addNames, listed]

theorem addNames_addNames (known more later : List String) :
    addNames known (addNames more later) = addNames (addNames known more) later := by
  induction later generalizing more with
  | nil => rfl
  | cons name later inductionHypothesis =>
    have one : addNames known (addNames more [name]) = addNames (addNames known more) [name] := by
      by_cases listed : name ∈ more
      · rw [addNames_known listed, addNames_known (mem_addNames.mpr (.inr listed))]
      · have appended : addNames more [name] = more ++ [name] := by simp [addNames, listed]
        rw [appended]
        simp [addNames, List.foldl_append]
    rw [addNames_cons more, inductionHypothesis, one, ← addNames_cons]

/-! ## Merging from either end -/

/-- Results in which no name comes up twice. -/
structure Distinct (results : Results) : Prop where
  byChecker : results.byChecker.names.Nodup
  stats : results.stats.names.Nodup
  sources : results.sources.names.Nodup

theorem distinct_empty : Distinct {} := ⟨List.nodup_nil, List.nodup_nil, List.nodup_nil⟩

theorem Distinct.merge {first : Results} (distinct : first.Distinct) (second : Results) :
    (first.merge second).Distinct := by
  rw [merge_eq]
  exact ⟨Keyed.names_putAll_nodup distinct.byChecker, Keyed.names_putAll_nodup distinct.stats,
    Keyed.names_putAll_nodup distinct.sources⟩

theorem merge_empty (results : Results) : results.merge {} = results := by
  simp [merge, addNames]

/-- Three results are merged from either end. -/
theorem merge_assoc (first third : Results) {second : Results} (distinct : second.Distinct) :
    (first.merge second).merge third = first.merge (second.merge third) := by
  have byChecker : Keyed.putAll (· ++ ·) first.byChecker
      (Keyed.putAll (· ++ ·) second.byChecker third.byChecker) =
      Keyed.putAll (· ++ ·) (Keyed.putAll (· ++ ·) first.byChecker second.byChecker)
        third.byChecker :=
    Keyed.putAll_putAll List.append_assoc distinct.byChecker
  have stats : Keyed.putAll (· + ·) first.stats
      (Keyed.putAll (· + ·) second.stats third.stats) =
      Keyed.putAll (· + ·) (Keyed.putAll (· + ·) first.stats second.stats) third.stats :=
    Keyed.putAll_putAll Nat.add_assoc distinct.stats
  have sources : Keyed.putAll (fun _ new => new) first.sources
      (Keyed.putAll (fun _ new => new) second.sources third.sources) =
      Keyed.putAll (fun _ new => new)
        (Keyed.putAll (fun _ new => new) first.sources second.sources) third.sources :=
    Keyed.putAll_putAll (fun _ _ _ => rfl) distinct.sources
  simp only [merge_eq, List.append_assoc, addNames_addNames, byChecker, stats, sources]

end Results
end DrainLint
