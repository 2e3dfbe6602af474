/-! # Keyed lists

Values by name in the order in which the names came up first.

- `get?`, `set`, `modify`: the value of a name;
- `names`: the names in order;
- `lookup_of_mem`: the value of a key that comes up once;
- `Text.sorted`, `Text.sortedDistinct`: names in the order of their code points.
-/

namespace DrainLint

section

variable {κ α : Type} [BEq κ] [LawfulBEq κ] {key : κ} {value : α} {entries : List (κ × α)}

theorem mem_of_lookup (found : entries.lookup key = some value) : (key, value) ∈ entries := by
  obtain ⟨before, after, rfl, _⟩ := List.lookup_eq_some_iff.mp found
  simp

theorem lookup_of_mem (distinct : (entries.map Prod.fst).Nodup)
    (member : (key, value) ∈ entries) : entries.lookup key = some value := by
  induction entries with
  | nil => cases member
  | cons entry entries inductionHypothesis =>
    rw [List.map_cons, List.nodup_cons] at distinct
    cases member with
    | head => exact List.lookup_cons_self
    | tail _ member =>
      have different : key ≠ entry.1 := by
        intro same
        exact distinct.1 (List.mem_map.mpr ⟨_, member, same⟩)
      rw [List.lookup_cons, beq_false_of_ne different]
      exact inductionHypothesis distinct.2 member

end

/-- Values by name; each name has one value. -/
abbrev Keyed (α : Type) := List (String × α)

namespace Keyed

variable {α : Type}

def get? (name : String) (keyed : Keyed α) : Option α := List.lookup name keyed

/-- Gives a name the value made from its old one; a new name comes last. -/
def modify (name : String) (next : Option α → α) : Keyed α → Keyed α
  | [] => [(name, next none)]
  | (other, value) :: rest =>
    if other = name then (name, next (some value)) :: rest
    else (other, value) :: modify name next rest

/-- Gives a name a value; a name that had one keeps its place. -/
def set (name : String) (value : α) (keyed : Keyed α) : Keyed α :=
  modify name (fun _ => value) keyed

def erase (name : String) (keyed : Keyed α) : Keyed α := keyed.filter fun entry => entry.1 != name

def names (keyed : Keyed α) : List String := keyed.map Prod.fst

def values (keyed : Keyed α) : List α := keyed.map Prod.snd

theorem get?_modify_self (name : String) (next : Option α → α) (keyed : Keyed α) :
    get? name (modify name next keyed) = some (next (get? name keyed)) := by
  induction keyed with
  | nil => simp [modify, get?]
  | cons entry rest inductionHypothesis =>
    obtain ⟨other, value⟩ := entry
    by_cases same : other = name
    · subst same; simp [modify, get?]
    · have differs : (name == other) = false := by simpa using fun equal => same equal.symm
      simp [modify, same, get?, List.lookup_cons, differs] at inductionHypothesis ⊢
      exact inductionHypothesis

end Keyed
end DrainLint

/-! ## Sorted names -/

namespace DrainLint.Text

def sorted (texts : List String) : List String := texts.mergeSort fun left right => !(right < left)

/-- Texts in ascending order, each of them once. -/
def sortedDistinct (texts : List String) : List String := sorted texts.eraseDups

end DrainLint.Text
