import DrainLint.Peg.Basic
import Std.Data.DHashMap

/-! # Running a grammar

The run of a grammar on a text.  Each rule is tried at most once at each place: what came of it is
remembered, so that the time is linear in the text for a grammar of fixed size.

- `Outcome`: the build of the value and the place after the match, or nothing;
- `Peg.run`: the run of an expression, given how its rules are run;
- `Grammar.match?`: the run of a rule at the start of a text.
-/

namespace DrainLint.Peg

open Hir (Build)

variable {Rule : Type} {Val : Rule → Type} [DecidableEq Rule] [Hashable Rule]

/-- What an expression came to: the build of its value and the place after it, or nothing. -/
abbrev Outcome (α : Type) := Option (Build α × Cursor)

abbrev Memo (Rule : Type) (Val : Rule → Type) [DecidableEq Rule] [Hashable Rule] :=
  Std.DHashMap (Rule × Nat) fun key => Outcome (Val key.1)

abbrev Run (Rule : Type) (Val : Rule → Type) [DecidableEq Rule] [Hashable Rule] :=
  StateM (Memo Rule Val)

/-- Repeats a step while it matches something; the budget bounds the number of steps. -/
def repeatStep {α : Type} (step : Cursor → Run Rule Val (Outcome α)) :
    Nat → List (Build α) → Cursor → Run Rule Val (Outcome (List α))
  | 0, found, cursor => return some (Build.all found.reverse, cursor)
  | budget + 1, found, cursor => do
    match ← step cursor with
    | none => return some (Build.all found.reverse, cursor)
    | some (build, after) =>
      -- A match of the empty text is kept, and it is the last one.
      if cursor.offset < after.offset then repeatStep step budget (build :: found) after
      else return some (Build.all (build :: found).reverse, after)

/-- The run of an expression at a place, given how rules are run.  The budget is a bound on the
number of characters left. -/
def run (call : (name : Rule) → Cursor → Run Rule Val (Outcome (Val name))) (budget : Nat) :
    {α : Type} → Peg Rule Val α → Cursor → Run Rule Val (Outcome α)
  | _, .pure value, cursor => return some (Pure.pure value, cursor)
  | _, .token scan, cursor =>
    return (scan cursor.rest).map fun (value, count) => (Pure.pure value, cursor.advance count)
  | _, .rule name, cursor => call name cursor
  | _, .seqWith combine first second, cursor => do
    match ← first.run call budget cursor with
    | none => return none
    | some (buildFirst, middle) =>
      match ← second.run call budget middle with
      | none => return none
      | some (buildSecond, after) =>
        return some ((do
          let a ← buildFirst
          let b ← buildSecond
          return combine a b), after)
  | _, .choice first second, cursor => do
    match ← first.run call budget cursor with
    | some found => return some found
    | none => second.run call budget cursor
  | _, .optional piece, cursor => do
    match ← piece.run call budget cursor with
    | some (build, after) => return some (some <$> build, after)
    | none => return some (Pure.pure none, cursor)
  | _, .many piece, cursor => repeatStep (piece.run call budget) budget [] cursor
  | _, .notAhead piece, cursor => do
    match ← piece.run call budget cursor with
    | some _ => return none
    | none => return some (Pure.pure (), cursor)
  | _, .spanned piece, cursor => do
    match ← piece.run call budget cursor with
    | none => return none
    | some (build, after) =>
      return some ((fun value => (Span.between cursor.offset after.offset, value)) <$> build, after)
  | _, .captured piece, cursor => do
    match ← piece.run call budget cursor with
    | none => return none
    | some (build, after) =>
      return some
        ((fun value => (cursor.rest.take (after.offset - cursor.offset), value)) <$> build, after)
  | _, .building next piece, cursor => do
    match ← piece.run call budget cursor with
    | none => return none
    | some (build, after) => return some (build >>= next, after)

/-- The run of a rule at a place, no more than `depth` rules deep.  An earlier outcome of the same
rule at the same place is taken over. -/
def runRule (grammar : (name : Rule) → Peg Rule Val (Val name)) (budget : Nat) :
    Nat → (name : Rule) → Cursor → Run Rule Val (Outcome (Val name))
  | 0, _, _ => return none
  | depth + 1, name, cursor => do
    match (← get).get? (name, cursor.offset) with
    | some known => return known
    | none =>
      let outcome ← (grammar name).run (runRule grammar budget depth) budget cursor
      modify fun memo => memo.insert (name, cursor.offset) outcome
      return outcome

/-- The match of a rule at the start of a text.  A grammar that does not come back to a rule at the
place where the rule was entered nests its rules no deeper than the number of rules times one more
than the number of characters. -/
def match? (grammar : (name : Rule) → Peg Rule Val (Val name)) (rules : Nat) (name : Rule)
    (text : List Char) : Outcome (Val name) :=
  let size := text.length
  (runRule grammar size (rules * (size + 1)) name ⟨0, text⟩ |>.run ∅).1

end DrainLint.Peg
