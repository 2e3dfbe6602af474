import DrainLint.Hir.Build

/-! # Parsing expressions

A grammar is a parsing expression for each of its rules.  An expression of type `Peg Rule Val α`
matches a piece of text and says how the value of the piece is built.

- `Cursor`: a place in the text;
- `Scanner`: how the word at the front of a text is read;
- `Peg`: the parsing expressions, with ordered choice and greedy repetition.
-/

namespace DrainLint.Peg

open Hir (Build)

/-- A place in the text: its offset and the characters from there on. -/
structure Cursor where
  offset : Nat
  rest : List Char

def Cursor.advance (cursor : Cursor) (count : Nat) : Cursor :=
  ⟨cursor.offset + count, cursor.rest.drop count⟩

/-- Reads the word at the front of a text, if there is one: its value and its length. -/
abbrev Scanner (α : Type) := List Char → Option (α × Nat)

/-- The scanner of a set of words that are their own value, given by the length of the word at the
front of a text. -/
def Scanner.ofLength (word : List Char → Option Nat) : Scanner (List Char) := fun cs =>
  (word cs).map fun count => (cs.take count, count)

end Peg

/-- Parsing expressions over the rules of a grammar, by the type of the value they build. -/
inductive Peg (Rule : Type) (Val : Rule → Type) : Type → Type 1 where
  /-- Matches the empty text. -/
  | pure {α : Type} (value : α) : Peg Rule Val α
  /-- Matches a word. -/
  | token {α : Type} (scan : Peg.Scanner α) : Peg Rule Val α
  /-- Matches what a rule of the grammar matches. -/
  | rule (name : Rule) : Peg Rule Val (Val name)
  /-- Matches one piece and then another. -/
  | seqWith {α β γ : Type} (combine : α → β → γ) (first : Peg Rule Val α)
      (second : Peg Rule Val β) : Peg Rule Val γ
  /-- Matches as the first expression does; only where that fails, as the second does. -/
  | choice {α : Type} (first second : Peg Rule Val α) : Peg Rule Val α
  /-- Matches the piece if it is there. -/
  | optional {α : Type} (piece : Peg Rule Val α) : Peg Rule Val (Option α)
  /-- Matches the piece as often as it is there. -/
  | many {α : Type} (piece : Peg Rule Val α) : Peg Rule Val (List α)
  /-- Matches the empty text where the piece is not there. -/
  | notAhead {α : Type} (piece : Peg Rule Val α) : Peg Rule Val Unit
  /-- Adds the span of the matched text. -/
  | spanned {α : Type} (piece : Peg Rule Val α) : Peg Rule Val (Span × α)
  /-- Adds the matched text. -/
  | captured {α : Type} (piece : Peg Rule Val α) : Peg Rule Val (List Char × α)
  /-- Builds further from the value of the piece. -/
  | building {α β : Type} (next : α → Hir.Build β) (piece : Peg Rule Val α) : Peg Rule Val β

namespace Peg

variable {Rule : Type} {Val : Rule → Type} {α β : Type}

instance : Functor (Peg Rule Val) where
  map f piece := building (fun value => Pure.pure (f value)) piece

instance : Pure (Peg Rule Val) where
  pure := Peg.pure

instance : Seq (Peg Rule Val) where
  seq first second := seqWith (fun f value => f value) first (second ())

instance : SeqLeft (Peg Rule Val) where
  seqLeft first second := seqWith (fun value _ => value) first (second ())

instance : SeqRight (Peg Rule Val) where
  seqRight first second := seqWith (fun _ value => value) first (second ())

instance : OrElse (Peg Rule Val α) where
  orElse first second := choice first (second ())

/-- Builds a node from the value of the piece, over the whole piece and after its children. -/
def node (piece : Peg Rule Val (Hir.Origin → α)) : Peg Rule Val α :=
  building (fun (span, make) => Hir.Build.node span make) (spanned piece)

def present (piece : Peg Rule Val α) : Peg Rule Val Bool :=
  Option.isSome <$> optional piece

/-- The list that the piece builds, or the empty list where the piece is not there. -/
def optionalList (piece : Peg Rule Val (List α)) : Peg Rule Val (List α) :=
  (fun found => found.getD []) <$> optional piece

end Peg
end DrainLint
