import DrainLint.Proofs.Grammar.MembersItems
import DrainLint.Proofs.Peg.Noted
import DrainLint.Proofs.Typing.Accounts

/-! # Values of blocks

A block of a file that parses has a value where an expression without a semicolon is written at its end,
and without a value it has the unit type.  Semicolons by themselves are not seen, though: they leave no
statement, so that one after an expression that is like a block does not take the value away.

- `parse_tells_tails`: what the blocks of a file that parses tell of what is written in them;
- `semicolon_lost_closedFile`: a block that ends in a semicolon, and has a value.
-/

namespace DrainLint.SourceFile

open Hir Grammar Typing

/-- The blocks of a file that parses tell of what is written in them, and those without a value are of
the unit type. -/
theorem parse_tells_tails {source : SourceFile} {crate : Crate} (parsed : source.parse = .ok crate) :
    ∀ block, Node.expr (.block block) ∈ crate.walk →
      ∃ written, BlockRead source.text block written ∧ TailTold written block ∧
        (block.tail = none → ∀ tables, (inferCrate crate).result = .ok tables →
          Node.InBody (.crate crate) (.expr (.block block)) →
            tables.typeOf block.origin.id = .unit) := by
  intro block listed
  obtain ⟨written, read, told⟩ := (source.parse_asWritten parsed _ listed).block block rfl
  refine ⟨written, read, told, fun tailless tables inferred inBody => ?_⟩
  exact typeOf_of_tailless (source.parse_distinct parsed) inferred tailless inBody.mem_code

/-- Whether a node is a block with a certain text that passes a check. -/
def isBlockOf (source : SourceFile) (text : String) (check : Block → Bool) : Node → Bool
  | .expr (.block block) => source.slice block.origin.span == text.toList && check block
  | _ => false

theorem exists_of_isBlockOf {source : SourceFile} {text : String} {check : Block → Bool}
    {crate : Crate} (found : crate.walk.any (isBlockOf source text check) = true) :
    ∃ block, Node.expr (.block block) ∈ crate.walk ∧
      source.slice block.origin.span = text.toList ∧ check block = true := by
  obtain ⟨node, listed, found⟩ := List.any_eq_true.mp found
  unfold isBlockOf at found
  split at found
  · rw [Bool.and_eq_true, beq_iff_eq] at found
    exact ⟨_, listed, found⟩
  · cases found

/-- A function whose body is a call and a semicolon. -/
def callFile : SourceFile := ⟨"call.rs", "fn f() { g(); }".toList⟩

theorem parse_tells_tails_callFile : ∃ crate block written, callFile.parse = .ok crate ∧
    Node.expr (.block block) ∈ crate.walk ∧ block.tail = none ∧
      BlockRead callFile.text block written ∧ TailTold written block := by
  have evaluated : callFile.crateNoted?.any (fun crate =>
      crate.walk.any (isBlockOf callFile "{ g(); }" (·.tail.isNone))) = true := by decide +kernel
  obtain ⟨crate, parsed, checked⟩ := SourceFile.parse_of_noted evaluated
  obtain ⟨block, listed, -, tailless⟩ := exists_of_isBlockOf checked
  obtain ⟨written, read, told, -⟩ := parse_tells_tails parsed block listed
  exact ⟨crate, block, written, parsed, listed, Option.isNone_iff_eq_none.mp tailless, read, told⟩

/-! ## A semicolon that is not seen -/

/-- A function whose body is a choice and a semicolon. -/
def closedFile : SourceFile := ⟨"closed.rs", "fn f(c: bool) { if c { 1 } else { 2 }; }".toList⟩

/-- The semicolon after a choice does not take its value away: the body of the function has one, and its
type. -/
theorem semicolon_lost_closedFile : ∃ crate tables block,
    closedFile.parse = .ok crate ∧ (inferCrate crate).result = .ok tables ∧
      Node.expr (.block block) ∈ crate.walk ∧
      closedFile.slice block.origin.span = "{ if c { 1 } else { 2 }; }".toList ∧
      block.tail.isSome = true ∧ tables.type? block.origin.id = some .integer := by
  have evaluated : closedFile.crateNoted?.any (fun crate => (inferCrate crate).fault?.isNone &&
      crate.walk.any (isBlockOf closedFile "{ if c { 1 } else { 2 }; }" fun block =>
        block.tail.isSome &&
          (inferCrate crate).tables.type? block.origin.id == some .integer)) = true := by
    decide +kernel
  obtain ⟨crate, parsed, checked⟩ := SourceFile.parse_of_noted evaluated
  rw [Bool.and_eq_true, Option.isNone_iff_eq_none] at checked
  obtain ⟨faultless, found⟩ := checked
  obtain ⟨block, listed, text, told⟩ := exists_of_isBlockOf found
  rw [Bool.and_eq_true, beq_iff_eq] at told
  have inferred : (inferCrate crate).result = .ok (inferCrate crate).tables := by
    rw [Inference.result, faultless]
  exact ⟨crate, _, block, parsed, inferred, listed, text, told.1, told.2⟩

end DrainLint.SourceFile
