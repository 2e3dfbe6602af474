import DrainLint.Checker.DrainLoop
import DrainLint.Keyed

/-! # Registries

The checkers that can be run, by name, and which of them are switched off.
-/

namespace DrainLint

/-- Checkers by name; the names that are switched off need not be those of a checker. -/
structure Registry where
  checkers : Keyed Checker := []
  disabled : List String := []

namespace Registry

/-- The registry with one more checker; it takes the place of a checker of its name. -/
def register (registry : Registry) (checker : Checker) : Registry :=
  { registry with checkers := Keyed.set checker.name checker registry.checkers }

/-- The registry without a checker; its name is not switched off any more. -/
def unregister (registry : Registry) (name : String) : Registry :=
  { checkers := Keyed.erase name registry.checkers
    disabled := registry.disabled.filter (· != name) }

def disable (registry : Registry) (name : String) : Registry :=
  { registry with disabled := name :: registry.disabled }

def enable (registry : Registry) (name : String) : Registry :=
  { registry with disabled := registry.disabled.filter (· != name) }

/-- All checkers, in the order in which their names were registered first. -/
def all (registry : Registry) : List Checker := Keyed.values registry.checkers

def enabled (registry : Registry) : List Checker :=
  (registry.checkers.filter fun entry => !registry.disabled.contains entry.1).map Prod.snd

def get? (registry : Registry) (name : String) : Option Checker :=
  Keyed.get? name registry.checkers

def withErrorId (registry : Registry) (id : String) : List Checker :=
  registry.all.filter fun checker => checker.errorIds.contains id

/-- The names of all checkers, sorted. -/
def names (registry : Registry) : List String := Text.sorted (Keyed.names registry.checkers)

def builtin : Registry := Registry.register {} Checker.drainLoop

end Registry
end DrainLint
