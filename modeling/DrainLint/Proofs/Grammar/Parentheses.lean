import DrainLint.Hir.Walk
import DrainLint.Proofs.Grammar.Endings
import DrainLint.Proofs.Peg.Noted
import Mathlib.Data.List.TakeWhile

/-! # Tuples of one and parentheses

One piece between parentheses is a tuple if a comma follows it, and else stands for itself.  Which of
the two it is, is looked up in the text before the closing parenthesis: the last character there that
is no blank decides, also where it is one of a comment.

- `WrittenSingle`: a single piece between parentheses, the comma after it, and what stands in the gap
  between that and the parenthesis;
- `WrittenSingle.isTuple`: whether it is taken for a tuple;
- `endsInComma_eq`: that is what is looked up, since no piece ends in a blank or in a comma;
- `TellsSingles`, `parentheses_tell_singles`: so it is with expressions, patterns and types, and when
  that is what the comma says;
- `comments_tell_commaFile`: a comment after the comma takes the tuple away, and one that ends in a
  comma makes a tuple.
-/

namespace DrainLint.Grammar

open Hir Peg Text

/-! ## What is written between parentheses -/

/-- A single piece between parentheses, whether a comma follows it, and what stands in the gap before
the closing parenthesis. -/
structure WrittenSingle (α : Type) where
  value : α
  comma : Bool
  gap : List Char

/-- Whether a single piece is taken for a tuple: in a gap of blanks if there is a comma, and else if the
last character of the gap that is no blank is a comma. -/
def WrittenSingle.isTuple {α : Type} (written : WrittenSingle α) : Bool :=
  match (trimEnd written.gap).getLast? with
  | none => written.comma
  | some c => c == ','

variable {α : Type}

/-- The tuple of the piece, or the piece itself. -/
def WrittenSingle.node (written : WrittenSingle α) (tuple : Origin → List α → α) (origin : Origin)
    (isTuple : Bool) : α :=
  if isTuple then tuple origin [written.value] else written.value

def writtenSingle (piece : G α) : G (WrittenSingle α) :=
  WrittenSingle.mk <$> (sym "(" *> ws *> piece) <*> present (ws *> sym ",")
    <*> (Prod.fst <$> .captured ws) <* sym ")"

/-- The readings of a single piece between parentheses: a tuple, which has a number, or the piece
itself. -/
def SingleRead (tuple : Origin → List α → α) (piece : G α) : Reading α :=
  fun cursor last built after last' => ∃ written between,
    (writtenSingle piece).Reads (Readable rules) cursor last written after between ∧
      built = written.node tuple ⟨between + 1, Span.between cursor.offset after.offset⟩
        written.isTuple ∧
      last' = if written.isTuple then between + 1 else between

/-- The readings of no piece or of several between parentheses: a tuple. -/
def SeveralRead (tuple : Origin → List α → α) (piece : G α) : Reading α :=
  fun cursor last built after last' => ∃ values between,
    (delimited "(" ")" (commaList piece)).Reads (Readable rules) cursor last values after between ∧
      values.length ≠ 1 ∧
      built = tuple ⟨between + 1, Span.between cursor.offset after.offset⟩ values ∧
        last' = between + 1

/-! ## The last character that is no blank -/

theorem getLast?_trimEnd (cs : List Char) :
    (trimEnd cs).getLast? = cs.reverse.find? fun c => !isSpace c := by
  rw [trimEnd, List.getLast?_reverse, List.find?_not_eq_head?_dropWhile]

theorem getLast?_trimEnd_append (front gap : List Char) :
    (trimEnd (front ++ gap)).getLast? =
      (trimEnd gap).getLast?.or (trimEnd front).getLast? := by
  simp only [getLast?_trimEnd, List.reverse_append, List.find?_append]

theorem WrittenSingle.isTuple_of_blank {written : WrittenSingle α}
    (blank : ∀ c ∈ written.gap, isSpace c = true) : written.isTuple = written.comma := by
  have nothing : (trimEnd written.gap).getLast? = none := by
    rw [getLast?_trimEnd, List.find?_eq_none]
    intro c member
    simp [blank c (List.mem_reverse.mp member)]
  rw [isTuple, nothing]

/-- The text up to a character that is no blank. -/
theorem getLast?_trimEnd_take {cs : List Char} {place : Nat} {c : Char} (found : cs[place]? = some c)
    (solid : isSpace c = false) : (trimEnd (cs.take (place + 1))).getLast? = some c := by
  obtain ⟨inside, rfl⟩ := List.getElem?_eq_some_iff.mp found
  rw [getLast?_trimEnd, List.take_succ_eq_append_getElem inside, List.reverse_append,
    List.reverse_singleton, List.singleton_append, List.find?_cons_of_pos (by simp [solid])]

/-! ## The text that is looked up -/

theorem sym_reads {sign : String} {c : Char} {cursor after : Cursor} {last last' : Nat} {found : Unit}
    (single : sign.toList = [c])
    (reads : (sym sign).Reads (Readable rules) cursor last found after last') :
    cursor.rest[0]? = some c ∧ after = cursor.advance 1 := by
  obtain ⟨count, scanned, rfl, -⟩ := reads
  rw [single] at scanned
  unfold word at scanned
  split at scanned
  · rename_i leading
    cases scanned
    obtain ⟨rest, same⟩ := List.isPrefixOf_iff_prefix.mp leading
    rw [← same]
    exact ⟨rfl, rfl⟩
  · cases scanned

/-- Where a single piece ends, the comma included if there is one, and with which character. -/
theorem front_ends {piece : G α} {cursor start middle after : Cursor} {last between last' : Nat}
    {value : α} {comma : Bool}
    (concludes : Concludes piece)
    (reaches : cursor.Reaches start)
    (reads : piece.Reads (Readable rules) start last value middle between)
    (readsComma : (present (ws *> sym ",")).Reads (Readable rules) middle between comma after last') :
    ∃ place c, after = cursor.advance (place + 1) ∧ cursor.rest[place]? = some c ∧
      isSpace c = false ∧ (c == ',') = comma := by
  have finished : Finishes cursor middle := .of_reaches reaches (concludes reads)
  obtain ⟨_, readsFound, rfl⟩ := reads_map_iff.mp readsComma
  rcases readsFound with ⟨_, readsSign, rfl⟩ | ⟨rfl, rfl, -⟩
  · -- The comma is the last character.
    obtain ⟨front, _, _, readsBlanks, readsSign⟩ := reads_seqRight_iff.mp readsSign
    obtain ⟨count, rfl⟩ := (reaches.trans (reaches_of_reads reads)).trans
      (reaches_of_reads readsBlanks)
    obtain ⟨leading, rfl⟩ := sym_reads rfl readsSign
    rw [Cursor.advance, List.getElem?_drop] at leading
    exact ⟨count, ',', by simp [Cursor.advance, Nat.add_assoc], leading, by decide, rfl⟩
  · obtain ⟨_, ⟨place, c, rfl, found, final⟩, rfl⟩ := finished
    rw [isFinal, Bool.and_eq_true, Bool.not_eq_true', bne, Bool.not_eq_true'] at final
    exact ⟨place, c, rfl, found, final⟩

/-- The text between the parentheses of a piece, from where the piece starts. -/
theorem endsInComma_eq_of {cs : List Char} {place count : Nat} {c : Char}
    (found : (cs.drop 1)[place]? = some c) (solid : isSpace c = false)
    (closed : (cs.drop 1)[place + 1 + count]? = some ')') :
    endsInComma (cs.take (1 + (place + 1 + count + 1))) =
      ((trimEnd (((cs.drop 1).drop (place + 1)).take count)).getLast?.or (some c) == some ',') := by
  have inside := (List.getElem?_eq_some_iff.mp closed).1
  -- Without the parentheses there is the text up to the last character of the piece, and the gap.
  have between : ((cs.take (1 + (place + 1 + count + 1))).drop 1).dropLast =
      (cs.drop 1).take (place + 1) ++ ((cs.drop 1).drop (place + 1)).take count := by
    rw [Nat.add_comm 1, List.drop_take, Nat.add_sub_cancel, ← List.take_add,
      List.take_succ_eq_append_getElem inside, List.dropLast_concat]
  rw [endsInComma, between, getLast?_trimEnd_append, getLast?_trimEnd_take found solid]

theorem WrittenSingle.isTuple_eq {written : WrittenSingle α} {c : Char}
    (ends : (c == ',') = written.comma) :
    written.isTuple = ((trimEnd written.gap).getLast?.or (some c) == some ',') := by
  unfold isTuple
  cases (trimEnd written.gap).getLast? with
  | none => exact ends.symm
  | some c' => rfl

/-- What is looked up in the text tells whether a single piece is taken for a tuple. -/
theorem endsInComma_eq {piece : G α} {cursor after : Cursor} {last last' : Nat}
    {written : WrittenSingle α}
    (concludes : Concludes piece)
    (reads : (writtenSingle piece).Reads (Readable rules) cursor last written after last') :
    endsInComma (cursor.rest.take (after.offset - cursor.offset)) = written.isTuple := by
  simp only [writtenSingle, reads_seqLeft_iff, reads_seq_iff, reads_map_iff] at reads
  obtain ⟨closing, _, _, ⟨_, gapStart, _, _, ⟨_, _, _, comma, ⟨value, readsPiece, rfl⟩, readsComma,
    rfl⟩, ⟨_, ⟨_, readsGap, rfl⟩, rfl⟩, rfl⟩, readsClosing⟩ := reads
  obtain ⟨start, _, _, readsOpening, readsPiece⟩ := reads_seqRight_iff.mp readsPiece
  obtain ⟨_, _, _, readsOpening, readsBlanks⟩ := reads_seqRight_iff.mp readsOpening
  obtain ⟨-, rfl⟩ := sym_reads rfl readsOpening
  obtain ⟨place, c, rfl, found, solid, ends⟩ :=
    front_ends concludes (reaches_of_reads readsBlanks) readsPiece readsComma
  obtain ⟨count, rfl⟩ := reaches_of_reads readsGap
  obtain ⟨leading, rfl⟩ := sym_reads (c := ')') rfl readsClosing
  have closed : (cursor.rest.drop 1)[place + 1 + count]? = some ')' := by
    rwa [Cursor.advance, Cursor.advance, List.getElem?_drop, List.getElem?_drop, Nat.add_zero,
      ← Nat.add_assoc] at leading
  have whole : ((((cursor.advance 1).advance (place + 1)).advance count).advance 1).offset -
      cursor.offset = 1 + (place + 1 + count + 1) := by
    simp only [Cursor.advance]
    omega
  rw [whole, endsInComma_eq_of found solid closed, WrittenSingle.isTuple_eq ends,
    Cursor.advance, Nat.add_sub_cancel_left]
  rfl

/-! ## Lists between parentheses -/

section

variable {piece : G α} {cursor after : Cursor} {last last' : Nat} {value : α}

/-- Lists that are read alike are read alike between delimiters. -/
theorem delimited_congr {pieces pieces' : G (List α)} {opening closing : String} {values : List α}
    (same : ∀ {cursor last values after last'},
      pieces.Reads (Readable rules) cursor last values after last' ↔
        pieces'.Reads (Readable rules) cursor last values after last') :
    (delimited opening closing pieces).Reads (Readable rules) cursor last values after last' ↔
      (delimited opening closing pieces').Reads (Readable rules) cursor last values after last' := by
  simp only [delimited, reads_seqLeft_iff, reads_seqRight_iff, reads_optionalList_iff, same]

/-- Of a list of one there is the piece, and perhaps a comma. -/
theorem commaList_single_iff :
    (commaList piece).Reads (Readable rules) cursor last [value] after last' ↔
      ∃ middle between comma, piece.Reads (Readable rules) cursor last value middle between ∧
        (present (ws *> sym ",")).Reads (Readable rules) middle between comma after last' := by
  simp only [commaList, present, reads_seqLeft_iff, reads_seq_iff, reads_map_iff]
  constructor
  · rintro ⟨middle, between, found, ⟨_, _, _, values, ⟨_, reads, rfl⟩, rest, same⟩, readsComma⟩
    obtain ⟨rfl, rfl⟩ := List.cons.inj same
    cases rest
    exact ⟨middle, between, found.isSome, reads, found, readsComma, rfl⟩
  · rintro ⟨middle, between, _, reads, found, readsComma, rfl⟩
    exact ⟨middle, between, found, ⟨_, middle, between, [], ⟨value, reads, rfl⟩, .nil, rfl⟩,
      readsComma⟩

/-- A list of one between parentheses is a single piece. -/
theorem delimited_single_iff :
    (delimited "(" ")" (commaList piece)).Reads (Readable rules) cursor last [value] after last' ↔
      ∃ written, (writtenSingle piece).Reads (Readable rules) cursor last written after last' ∧
        written.value = value := by
  simp only [delimited, writtenSingle, reads_seqLeft_iff, reads_seq_iff, reads_map_iff,
    reads_seqRight_iff, reads_optionalList_iff, commaList_single_iff]
  constructor
  · rintro ⟨closing, _, found, ⟨start, _, _, readsOpening, readsList⟩, readsClosing⟩
    rcases readsList with ⟨gap, number, _, ⟨middle, _, comma, reads, readsComma⟩, readsGap⟩ | ⟨⟨⟩, _⟩
    refine ⟨⟨value, comma, gap.rest.take (closing.offset - gap.offset)⟩, ⟨closing, _, found,
      ⟨_, gap, number, _, ?_, ⟨_, ⟨_, readsGap, rfl⟩, rfl⟩, rfl⟩, readsClosing⟩, rfl⟩
    exact ⟨_, middle, _, comma, ⟨value, ⟨start, _, _, readsOpening, reads⟩, rfl⟩, readsComma, rfl⟩
  · rintro ⟨_, ⟨closing, _, found, ⟨_, gap, _, _, front, ⟨_, ⟨_, readsGap, rfl⟩, rfl⟩, rfl⟩,
      readsClosing⟩, rfl⟩
    obtain ⟨_, middle, _, comma, ⟨value, ⟨start, _, _, readsOpening, reads⟩, rfl⟩, readsComma,
      rfl⟩ := front
    refine ⟨closing, _, found, ⟨start, _, _, readsOpening, .inl ?_⟩, readsClosing⟩
    exact ⟨gap, _, _, ⟨middle, _, comma, reads, readsComma⟩, readsGap⟩

end

/-! ## Tuples and parentheses -/

section

variable {tuple : Origin → List α → α} {piece : G α} {pieces : G (List α)} {cursor after : Cursor}
  {last last' : Nat} {built : α}

theorem tuple_or_value_eq_ok {written : WrittenSingle α} {isTuple : Bool} {span : Span} :
    (if isTuple then Build.node span (tuple · [written.value]) else pure written.value) last =
        .ok (built, last') ↔
      built = written.node tuple ⟨last + 1, span⟩ isTuple ∧
        last' = if isTuple then last + 1 else last := by
  cases isTuple with
  | false => exact Build.pure_eq_ok
  | true =>
    simp only [WrittenSingle.node, if_true]
    exact Build.node_eq_ok

variable (concludes : Concludes piece)

include concludes

theorem singleRead_iff :
    SingleRead tuple piece cursor last built after last' ↔ ∃ value between,
      (delimited "(" ")" (commaList piece)).Reads (Readable rules) cursor last [value] after between ∧
        (if endsInComma (cursor.rest.take (after.offset - cursor.offset)) then
          Build.node (Span.between cursor.offset after.offset) (tuple · [value])
        else pure value) between = .ok (built, last') := by
  simp only [delimited_single_iff]
  constructor
  · rintro ⟨written, between, reads, told⟩
    refine ⟨written.value, between, ⟨written, reads, rfl⟩, ?_⟩
    rwa [endsInComma_eq concludes reads, tuple_or_value_eq_ok]
  · rintro ⟨_, between, ⟨written, reads, rfl⟩, succeeded⟩
    rw [endsInComma_eq concludes reads, tuple_or_value_eq_ok] at succeeded
    exact ⟨written, between, reads, succeeded⟩

/-- What parentheses give is what the single piece between them gives, or a tuple of what is there. -/
theorem parenthesized_reads_iff
    (same : ∀ {cursor last values after last'},
      pieces.Reads (Readable rules) cursor last values after last' ↔
        (commaList piece).Reads (Readable rules) cursor last values after last') :
    (parenthesized tuple pieces).Reads (Readable rules) cursor last built after last' ↔
      SingleRead tuple piece cursor last built after last' ∨
        SeveralRead tuple piece cursor last built after last' := by
  rw [singleRead_iff concludes]
  constructor
  · rintro ⟨_, between, ⟨_, ⟨values, reads, rfl⟩, rfl⟩, succeeded⟩
    have reads := (delimited_congr same).mp reads
    -- Only a list of one is looked at twice; another becomes a tuple without more ado.
    match values, reads, succeeded with
    | [value], reads, succeeded => exact .inl ⟨value, between, reads, succeeded⟩
    | [], reads, succeeded =>
      exact .inr ⟨[], between, reads, by simp, Build.node_eq_ok.mp succeeded⟩
    | first :: second :: rest, reads, succeeded =>
      exact .inr ⟨first :: second :: rest, between, reads, by simp, Build.node_eq_ok.mp succeeded⟩
  · rintro (⟨value, between, reads, succeeded⟩ | ⟨values, between, reads, several, told⟩)
    · exact ⟨(_, _, [value]), between, ⟨_, ⟨_, (delimited_congr same).mpr reads, rfl⟩, rfl⟩, succeeded⟩
    · refine ⟨(_, _, values), between, ⟨_, ⟨_, (delimited_congr same).mpr reads, rfl⟩, rfl⟩, ?_⟩
      match values, several, told with
      | [], _, told => exact Build.node_eq_ok.mpr told
      | _ :: _ :: _, _, told => exact Build.node_eq_ok.mpr told

end

theorem exprList_reads_iff {cursor after : Cursor} {last last' : Nat} {values : List Expr} :
    exprList.Reads (Readable rules) cursor last values after last' ↔
      (commaList expr).Reads (Readable rules) cursor last values after last' :=
  ⟨Readable.reads, fun reads => readable_closed rules .exprList reads⟩

/-! ## Expressions, patterns and types -/

/-- What may stand between parentheses. -/
inductive PieceKind where
  | expr
  | pat
  | ty

namespace PieceKind

def Val : PieceKind → Type
  | expr => Expr
  | pat => Pat
  | ty => Ty

def tuple : (kind : PieceKind) → Origin → List kind.Val → kind.Val
  | expr => Expr.tuple
  | pat => Pat.tuple
  | ty => Ty.tuple

def piece : (kind : PieceKind) → G kind.Val
  | expr => Grammar.expr
  | pat => Grammar.pat
  | ty => Grammar.ty

/-- What is read from parentheses. -/
def enclosed : (kind : PieceKind) → G kind.Val
  | expr => parenExpr
  | pat => tuplePat
  | ty => tupleTy

/-- A tuple is larger than what is in it. -/
theorem tuple_ne (kind : PieceKind) (origin : Origin) (value : kind.Val) :
    kind.tuple origin [value] ≠ value := by
  have exprTuple (value : Expr) : Expr.tuple origin [value] ≠ value := by
    intro same
    cases same
  have patTuple (value : Pat) : Pat.tuple origin [value] ≠ value := by
    intro same
    cases same
  have tyTuple (value : Ty) : Ty.tuple origin [value] ≠ value := by
    intro same
    cases same
  cases kind with
  | expr => exact exprTuple value
  | pat => exact patTuple value
  | ty => exact tyTuple value

/-- So the tuple of a piece and the piece itself are told apart. -/
theorem node_eq_iff (kind : PieceKind) {written : WrittenSingle kind.Val} {origin : Origin}
    {left right : Bool} :
    written.node kind.tuple origin left = written.node kind.tuple origin right ↔ left = right := by
  have differs := kind.tuple_ne origin written.value
  constructor
  · intro same
    cases left <;> cases right
    · rfl
    · exact absurd same.symm differs
    · exact absurd same differs
    · rfl
  · exact congrArg _

theorem enclosed_reads_iff (kind : PieceKind) {cursor after : Cursor} {last last' : Nat}
    {built : kind.Val} :
    kind.enclosed.Reads (Readable rules) cursor last built after last' ↔
      SingleRead kind.tuple kind.piece cursor last built after last' ∨
        SeveralRead kind.tuple kind.piece cursor last built after last' := by
  cases kind with
  | expr => exact parenthesized_reads_iff (call_concludes rfl) exprList_reads_iff
  | pat => exact parenthesized_reads_iff (call_concludes rfl) Iff.rfl
  | ty => exact parenthesized_reads_iff (call_concludes rfl) Iff.rfl

end PieceKind

/-- When parentheses tell a tuple of one from the piece itself by the comma. -/
structure TellsSingles (kind : PieceKind) : Prop where
  /-- What is read is a tuple of no piece or of several, or a single piece, and of that a tuple or the
  piece itself as the text before the closing parenthesis says. -/
  reads_iff : ∀ {cursor last built after last'},
    kind.enclosed.Reads (Readable rules) cursor last built after last' ↔
      SingleRead kind.tuple kind.piece cursor last built after last' ∨
        SeveralRead kind.tuple kind.piece cursor last built after last'
  /-- What is built after a match in a text is one of the two. -/
  ofRun : ∀ {text cursor memo budget depth build after last built last'}, cursor.On text →
    Remembers rules text memo →
      ((kind.enclosed.run (runRule rules budget depth) budget cursor).run memo).1 =
          some (build, after) →
        build last = .ok (built, last') →
          SingleRead kind.tuple kind.piece cursor last built after last' ∨
            SeveralRead kind.tuple kind.piece cursor last built after last'
  /-- It is what the comma says exactly if the last character of the gap that is no blank, if there is
  one, says the same. -/
  meets_iff : ∀ {written : WrittenSingle kind.Val} {origin},
    written.node kind.tuple origin written.isTuple = written.node kind.tuple origin written.comma ↔
      ∀ c, (trimEnd written.gap).getLast? = some c → (c == ',') = written.comma
  /-- With blanks only in the gap there is none. -/
  ofBlanks : ∀ {written : WrittenSingle kind.Val} {origin}, (∀ c ∈ written.gap, isSpace c = true) →
    written.node kind.tuple origin written.isTuple = written.node kind.tuple origin written.comma

theorem WrittenSingle.isTuple_eq_comma_iff {written : WrittenSingle α} :
    written.isTuple = written.comma ↔
      ∀ c, (trimEnd written.gap).getLast? = some c → (c == ',') = written.comma := by
  rw [isTuple]
  cases (trimEnd written.gap).getLast? with
  | none => simp
  | some c => simp

/-- For expressions, patterns and types, parentheses tell tuples of one from single pieces by what
stands last before the closing one. -/
theorem parentheses_tell_singles (kind : PieceKind) : TellsSingles kind where
  reads_iff := kind.enclosed_reads_iff
  ofRun := by
    intro text cursor memo budget depth build after last built last' on remembers ran succeeded
    have found :=
      (run_keeps (runRule_keeps budget depth) budget kind.enclosed cursor on memo remembers).1
    exact kind.enclosed_reads_iff.mp ((found build after ran).2 last built last' succeeded)
  meets_iff := kind.node_eq_iff.trans WrittenSingle.isTuple_eq_comma_iff
  ofBlanks := fun blank => congrArg _ (WrittenSingle.isTuple_of_blank blank)

end DrainLint.Grammar

namespace DrainLint.SourceFile

open Hir

/-- The pieces of a tuple, or nothing for another expression. -/
def tupleWidth? : Expr → Option Nat
  | .tuple _ pieces => some pieces.length
  | _ => none

/-- Whether a node is a statement with a certain text, of a tuple so wide or of no tuple. -/
def isStmtOf (source : SourceFile) (text : String) (width? : Option Nat) : Node → Bool
  | .stmt (.expr origin value _) =>
    source.slice origin.span == text.toList && tupleWidth? value == width?
  | _ => false

theorem exists_of_isStmtOf {source : SourceFile} {text : String} {width? : Option Nat} {crate : Crate}
    (found : crate.walk.any (isStmtOf source text width?) = true) :
    ∃ origin value semi, Node.stmt (.expr origin value semi) ∈ crate.walk ∧
      source.slice origin.span = text.toList ∧ tupleWidth? value = width? := by
  obtain ⟨node, listed, found⟩ := List.any_eq_true.mp found
  unfold isStmtOf at found
  split at found
  · rw [Bool.and_eq_true, beq_iff_eq, beq_iff_eq] at found
    exact ⟨_, _, _, listed, found⟩
  · cases found

/-- A function that writes a tuple of one and a piece between parentheses, with comments. -/
def commaFile : SourceFile := ⟨"comma.rs", "fn f(v: u8) \x7b (v, /* c */); (v // c,\n); \x7d".toList⟩

/-- A comment after the comma takes the tuple away, and a comment that ends in a comma makes one. -/
theorem comments_tell_commaFile : ∃ crate, commaFile.parse = .ok crate ∧
    (∃ origin value semi, Node.stmt (.expr origin value semi) ∈ crate.walk ∧
      commaFile.slice origin.span = "(v, /* c */);".toList ∧ tupleWidth? value = none) ∧
    ∃ origin value semi, Node.stmt (.expr origin value semi) ∈ crate.walk ∧
      commaFile.slice origin.span = "(v // c,\n);".toList ∧ tupleWidth? value = some 1 := by
  have evaluated : commaFile.crateNoted?.any (fun crate =>
      crate.walk.any (isStmtOf commaFile "(v, /* c */);" none) &&
        crate.walk.any (isStmtOf commaFile "(v // c,\n);" (some 1))) = true := by
    decide +kernel
  obtain ⟨crate, parsed, checked⟩ := SourceFile.parse_of_noted evaluated
  rw [Bool.and_eq_true] at checked
  exact ⟨crate, parsed, exists_of_isStmtOf checked.1, exists_of_isStmtOf checked.2⟩

end DrainLint.SourceFile
