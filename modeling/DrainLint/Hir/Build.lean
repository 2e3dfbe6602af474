import DrainLint.Hir.Basic

/-! # Building numbered nodes

Nodes get their numbers when they are built, the children first.  A `Build` hands out the numbers
one after the other and stops at a literal that denotes no value.
-/

namespace DrainLint.Hir

/-- Why the text of a literal denotes no value. -/
inductive LiteralFault where
  /-- The spelling is none of a number or of a code point. -/
  | malformed
  /-- The number written for a code point does not fit a machine word. -/
  | overflow
  deriving DecidableEq

def LiteralFault.className : LiteralFault → String
  | malformed => "ValueError"
  | overflow => "OverflowError"

/-- A computation that numbers nodes: it takes the last number handed out. -/
abbrev Build := StateT Nat (Except LiteralFault)

namespace Build

def fresh : Build Nat := fun last => .ok (last + 1, last + 1)

def node {α : Type} (span : Span) (make : Origin → α) : Build α := do
  let id ← fresh
  return make ⟨id, span⟩

def ofExcept {α : Type} (result : Except LiteralFault α) : Build α := fun last =>
  result.map fun value => (value, last)

def all {α : Type} : List (Build α) → Build (List α)
  | [] => pure []
  | first :: rest => do
    let value ← first
    let values ← all rest
    return value :: values

end Build
end DrainLint.Hir
