import DrainLint.Grammar.Table
import DrainLint.Proofs.Peg.Readings
import Mathlib.Data.List.Basic
import Mathlib.Data.List.Induction

/-! # Blocks as they are written

A block is read as statements one after another and then, perhaps, an expression.  Of an expression
that is like a block it is known only later that it was the last of them: it was read as a statement
without a semicolon, and becomes the value of the block if no statement comes after it.

- `WrittenStmt`, `WrittenBlock`: what is read between the braces, with the semicolons told apart;
- `BlockRead`: the text of a block is read as what is written in it;
- `WrittenBlock.EndsBare`: what is written last, apart from what gives no statement, has no semicolon;
- `TailTold`: what the value and the statements of a block say about what is written;
- `splitTail_told`: so the value is found, from the last statement that there is;
- `exists_writtenBlock`: every block that is read is written.
-/

namespace DrainLint.Grammar

open Hir Peg

/-! ## What is written in a block -/

/-- What is written in the place of a statement. -/
inductive WrittenStmt where
  /-- A `let`, or a declaration of items, of which there may be none. -/
  | declares (stmts : List Stmt)
  /-- An expression that is like a block, by itself. -/
  | bare (origin : Origin) (value : Expr)
  /-- An expression with a semicolon. -/
  | closed (origin : Origin) (value : Expr)
  /-- A semicolon by itself. -/
  | empty

namespace WrittenStmt

/-- The statements that come of what is written. -/
def stmts : WrittenStmt → List Stmt
  | declares stmts => stmts
  | bare origin value => [.expr origin value false]
  | closed origin value => [.expr origin value true]
  | empty => []

/-- Whether declarations are no expressions, as those that are read. -/
def Proper : WrittenStmt → Prop
  | declares stmts => ∀ origin value semi, .expr origin value semi ∉ stmts
  | _ => True

end WrittenStmt

/-- What is written between the braces of a block: statements, and an expression after them. -/
structure WrittenBlock where
  pieces : List WrittenStmt
  tail : Option Expr

namespace WrittenBlock

def stmts (written : WrittenBlock) : List Stmt := written.pieces.flatMap WrittenStmt.stmts

/-- Whether the last that is written is an expression without a semicolon. -/
def EndsOpen (written : WrittenBlock) : Prop :=
  written.tail.isSome ∨ ∃ origin value, written.pieces.getLast? = some (.bare origin value)

/-- Whether an expression without a semicolon is written after which no statement comes. -/
def EndsBare (written : WrittenBlock) : Prop :=
  ∃ before origin value after, written.pieces = before ++ .bare origin value :: after ∧
    after.flatMap WrittenStmt.stmts = []

end WrittenBlock

/-- A statement as `stmtRule` reads it, with what becomes of it left open. -/
def writtenStmt : G WrittenStmt :=
  (fun declared => .declares [declared]) <$> letStmt
    <|> WrittenStmt.declares <$> itemStmts
    <|> node ((fun value o => .bare o value) <$> blockLike) <* .notAhead (ws *> continuation)
    <|> node ((fun value o => .closed o value) <$> expr <* ws <* sym ";")
    <|> (fun _ => .empty) <$> sym ";"

def writtenBlock : G WrittenBlock :=
  WrittenBlock.mk <$> (sym "\x7b" *> ws *> .many (writtenStmt <* ws)) <*> .optional (expr <* ws)
    <* sym "\x7d"

/-- What may stand before the braces of a block, as part of it. -/
def blockOpening : G Unit := (fun _ => ()) <$> .optional (kw "unsafe" *> ws)

/-- The text of a block, from where it starts to where it ends, is read as what is written. -/
inductive BlockRead (text : List Char) (block : Block) (written : WrittenBlock) : Prop where
  | intro {start brace closed : Cursor} {last between last' : Nat} (on : start.On text)
      (starts : start.offset = block.origin.span.lo)
      (opens : blockOpening.Reads (Readable rules) start last () brace between)
      (reads : writtenBlock.Reads (Readable rules) brace between written closed last')
      (ends : closed.offset = block.origin.span.hi)

/-! ## The value of a block -/

/-- What the value and the statements of a block say about what is written in it. -/
structure TailTold (written : WrittenBlock) (block : Block) : Prop where
  /-- There is a value where the source has an expression at the end, semicolons by themselves and
  declarations of nothing aside. -/
  present : block.tail.isSome ↔ written.tail.isSome ∨ written.EndsBare
  /-- If the last that is written gives a statement, only that decides. -/
  exactly : (∀ piece, written.pieces.getLast? = some piece → piece.stmts ≠ []) →
    (block.tail.isSome ↔ written.EndsOpen)
  /-- An expression after the statements is the value. -/
  ofTail : ∀ value, written.tail = some value →
    block.tail = some value ∧ block.stmts = written.stmts
  /-- An expression without a semicolon is the value if no statement comes after it. -/
  ofBare : ∀ before origin value after, written.tail = none →
    written.pieces = before ++ .bare origin value :: after →
      after.flatMap WrittenStmt.stmts = [] →
        block.tail = some value ∧ block.stmts = before.flatMap WrittenStmt.stmts
  /-- Without a value, all that is written is in the statements, in order. -/
  ofNone : block.tail = none → block.stmts = written.stmts

theorem splitTail_bare (before : List Stmt) (origin : Origin) (value : Expr) :
    splitTail (before ++ [.expr origin value false]) none = (before, some value) := by
  rw [splitTail, List.getLast?_concat]
  simp

/-- The value is found in the last statement there is. -/
theorem splitTail_pieces {pieces : List WrittenStmt} {before after : List WrittenStmt}
    {origin : Origin} {value : Expr} (isWritten : pieces = before ++ .bare origin value :: after)
    (nothing : after.flatMap WrittenStmt.stmts = []) :
    splitTail (pieces.flatMap WrittenStmt.stmts) none =
      (before.flatMap WrittenStmt.stmts, some value) := by
  rw [isWritten, List.flatMap_append, List.flatMap_cons, nothing, List.append_nil]
  exact splitTail_bare _ origin value

/-- If the last statement is an expression without a semicolon, it is written so. -/
theorem exists_bare {pieces : List WrittenStmt} (proper : ∀ piece ∈ pieces, piece.Proper)
    {origin : Origin} {value : Expr}
    (final : (pieces.flatMap WrittenStmt.stmts).getLast? = some (.expr origin value false)) :
    ∃ before after, pieces = before ++ .bare origin value :: after ∧
      after.flatMap WrittenStmt.stmts = [] := by
  -- From the end: pieces that give no statement are passed over until one gives the last.
  induction pieces using List.reverseRecOn with
  | nil => cases final
  | append_singleton pieces piece inductionHypothesis =>
    rw [List.flatMap_append, List.flatMap_singleton, List.getLast?_append] at final
    rw [List.forall_mem_append, List.forall_mem_singleton] at proper
    have passed : piece.stmts = [] → ∃ before after,
        pieces ++ [piece] = before ++ .bare origin value :: after ∧
          after.flatMap WrittenStmt.stmts = [] := by
      intro nothing
      rw [nothing] at final
      obtain ⟨before, after, rfl, rest⟩ := inductionHypothesis proper.1 final
      refine ⟨before, after ++ [piece], by simp, ?_⟩
      rw [List.flatMap_append, rest, List.flatMap_singleton, nothing, List.nil_append]
    cases piece with
    | empty => exact passed rfl
    | closed => cases final
    | bare =>
      cases final
      exact ⟨pieces, [], rfl, rfl⟩
    | declares stmts =>
      cases isLast : stmts.getLast? with
      | none => exact passed (List.getLast?_eq_none_iff.mp isLast)
      | some stmt =>
        rw [WrittenStmt.stmts, isLast, Option.some_or] at final
        cases final
        exact absurd (List.mem_of_getLast? isLast) (proper.2 _ _ _)

theorem splitTail_none {stmts : List Stmt} (tailless : (splitTail stmts none).2 = none) :
    (splitTail stmts none).1 = stmts := by
  rw [splitTail] at tailless ⊢
  split at tailless
  · cases tailless
  · rfl

theorem exists_of_splitTail {stmts : List Stmt} {value : Expr}
    (tail : (splitTail stmts none).2 = some value) :
    ∃ origin, stmts.getLast? = some (.expr origin value false) := by
  rw [splitTail] at tail
  split at tail
  · rename_i origin value' final
    cases tail
    exact ⟨origin, final⟩
  · cases tail

theorem WrittenBlock.endsBare_iff {written : WrittenBlock}
    (gives : ∀ piece, written.pieces.getLast? = some piece → piece.stmts ≠ []) :
    written.EndsBare ↔ ∃ origin value, written.pieces.getLast? = some (.bare origin value) := by
  constructor
  · rintro ⟨before, origin, value, after, isWritten, nothing⟩
    refine ⟨origin, value, ?_⟩
    rcases List.eq_nil_or_concat after with rfl | ⟨front, final, rfl⟩
    · rw [isWritten, List.getLast?_concat]
    · -- What gives no statement would be written last.
      have isLast : written.pieces.getLast? = some final := by
        rw [isWritten, List.concat_eq_append, ← List.cons_append, ← List.append_assoc,
          List.getLast?_concat]
      rw [List.concat_eq_append, List.flatMap_append, List.append_eq_nil_iff,
        List.flatMap_singleton] at nothing
      exact absurd nothing.2 (gives final isLast)
  · rintro ⟨origin, value, isLast⟩
    exact ⟨_, origin, value, [], (List.dropLast_append_getLast? _ isLast).symm, rfl⟩

/-- The value that `splitTail` finds tells of what is written. -/
theorem splitTail_told {written : WrittenBlock} (proper : ∀ piece ∈ written.pieces, piece.Proper)
    {block : Block} (same : splitTail written.stmts written.tail = (block.stmts, block.tail)) :
    TailTold written block := by
  have stmts : block.stmts = (splitTail written.stmts written.tail).1 := by rw [same]
  have tail : block.tail = (splitTail written.stmts written.tail).2 := by rw [same]
  have ofTail : ∀ value, written.tail = some value →
      block.tail = some value ∧ block.stmts = written.stmts := by
    intro value isTail
    rw [isTail] at stmts tail
    exact ⟨tail, stmts⟩
  have ofBare : ∀ before origin value after, written.tail = none →
      written.pieces = before ++ .bare origin value :: after →
        after.flatMap WrittenStmt.stmts = [] →
          block.tail = some value ∧ block.stmts = before.flatMap WrittenStmt.stmts := by
    intro before origin value after noTail isWritten nothing
    rw [noTail, WrittenBlock.stmts, splitTail_pieces isWritten nothing] at stmts tail
    exact ⟨tail, stmts⟩
  have present : block.tail.isSome ↔ written.tail.isSome ∨ written.EndsBare := by
    cases noTail : written.tail with
    | some value => simp [(ofTail value noTail).1]
    | none =>
      constructor
      · intro found
        obtain ⟨value, isTail⟩ := Option.isSome_iff_exists.mp found
        rw [isTail, noTail] at tail
        obtain ⟨origin, final⟩ := exists_of_splitTail tail.symm
        obtain ⟨before, after, isWritten, nothing⟩ := exists_bare proper final
        exact .inr ⟨before, origin, value, after, isWritten, nothing⟩
      · rintro (⟨⟨⟩⟩ | ⟨before, origin, value, after, isWritten, nothing⟩)
        rw [(ofBare before origin value after noTail isWritten nothing).1]
        rfl
  refine ⟨present, fun gives => ?_, ofTail, ofBare, fun tailless => ?_⟩
  · rw [present, WrittenBlock.endsBare_iff gives, WrittenBlock.EndsOpen]
  · cases noTail : written.tail with
    | some value =>
      rw [(ofTail value noTail).1] at tailless
      cases tailless
    | none =>
      rw [noTail] at stmts tail
      rw [stmts, splitTail_none (tail.symm.trans tailless)]

/-! ## Blocks that are read -/

variable {text : List Char} {cursor after : Cursor} {last last' : Nat}

theorem letStmt_reads {stmt : Stmt}
    (reads : letStmt.Reads (Readable rules) cursor last stmt after last') :
    ∃ origin pat ty init els, stmt = .letStmt origin pat ty init els := by
  rw [letStmt, reads_node_iff] at reads
  obtain ⟨make, between, reads, rfl, -⟩ := reads
  simp only [reads_seqLeft_iff, reads_seq_iff, reads_map_iff] at reads
  obtain ⟨_, _, _, ⟨_, _, _, ⟨_, _, _, els, ⟨_, _, _, init, ⟨_, _, _, ty, ⟨pat, _, rfl⟩, _, rfl⟩, _,
    rfl⟩, _, rfl⟩, _⟩, _⟩ := reads
  exact ⟨_, pat, ty, init, els, rfl⟩

theorem itemStmts_reads {stmts : List Stmt}
    (reads : itemStmts.Reads (Readable rules) cursor last stmts after last') :
    ∀ stmt ∈ stmts, ∃ origin item, stmt = .item origin item := by
  obtain ⟨items, between, -, succeeded⟩ := reads
  induction items generalizing between stmts with
  | nil =>
    obtain ⟨rfl, -⟩ := Build.pure_eq_ok.mp succeeded
    simp
  | cons item items inductionHypothesis =>
    obtain ⟨stmt, _, made, succeeded⟩ := Build.bind_eq_ok.mp succeeded
    obtain ⟨rest, _, all, same⟩ := Build.bind_eq_ok.mp succeeded
    obtain ⟨rfl, rfl⟩ := Build.pure_eq_ok.mp same
    obtain ⟨rfl, -⟩ := Build.node_eq_ok.mp made
    rw [List.forall_mem_cons]
    exact ⟨⟨_, item, rfl⟩, inductionHypothesis _ all⟩

theorem exists_writtenStmt {found : List Stmt}
    (readable : Readable rules .stmt cursor last found after last') :
    ∃ piece : WrittenStmt, writtenStmt.Reads (Readable rules) cursor last piece after last' ∧
      piece.Proper ∧ found = piece.stmts := by
  have reads : stmtRule.Reads (Readable rules) cursor last found after last' := readable.reads
  simp only [stmtRule, reads_orElse_iff, reads_map_iff] at reads
  -- Each way to read a statement is the way to read what is written there.
  rcases reads with ⟨stmt, readsLet, rfl⟩ | readsItems | ⟨stmt, readsBare, rfl⟩ |
    ⟨stmt, readsClosed, rfl⟩ | ⟨_, readsEmpty, rfl⟩
  · obtain ⟨origin, pat, ty, init, els, rfl⟩ := letStmt_reads readsLet
    exact ⟨.declares _, .inl (reads_map_iff.mpr ⟨_, readsLet, rfl⟩), by simp [WrittenStmt.Proper],
      rfl⟩
  · refine ⟨.declares found, .inr (.inl (reads_map_iff.mpr ⟨_, readsItems, rfl⟩)), ?_, rfl⟩
    intro origin value semi member
    obtain ⟨_, _, isItem⟩ := itemStmts_reads readsItems _ member
    cases isItem
  · simp only [blockLikeStmt, reads_seqLeft_iff, reads_node_iff, reads_map_iff] at readsBare
    obtain ⟨middle, between, _, ⟨_, inner, ⟨value, readsValue, rfl⟩, rfl, rfl⟩, goesNotOn⟩ := readsBare
    refine ⟨.bare _ value, .inr (.inr (.inl ?_)), trivial, rfl⟩
    simp only [reads_seqLeft_iff, reads_node_iff, reads_map_iff]
    exact ⟨middle, _, _, ⟨_, inner, ⟨value, readsValue, rfl⟩, rfl, rfl⟩, goesNotOn⟩
  · simp only [semiStmt, reads_seqLeft_iff, reads_node_iff, reads_map_iff] at readsClosed
    obtain ⟨_, between, ⟨_, _, _, ⟨_, _, _, ⟨value, readsValue, rfl⟩, readsBlanks⟩, readsSign⟩, rfl,
      rfl⟩ := readsClosed
    refine ⟨.closed _ value, .inr (.inr (.inr (.inl ?_))), trivial, rfl⟩
    simp only [reads_seqLeft_iff, reads_node_iff, reads_map_iff]
    exact ⟨_, between, ⟨_, _, _, ⟨_, _, _, ⟨value, readsValue, rfl⟩, readsBlanks⟩, readsSign⟩, rfl, rfl⟩
  · exact ⟨.empty, .inr (.inr (.inr (.inr (reads_map_iff.mpr ⟨_, readsEmpty, rfl⟩)))), trivial, rfl⟩

theorem exists_writtenStmts {found : List (List Stmt)}
    (reads : (Peg.many (stmt <* ws) : G _).Reads (Readable rules) cursor last found after last') :
    ∃ pieces, (Peg.many (writtenStmt <* ws) : G _).Reads (Readable rules) cursor last pieces after
        last' ∧
      (∀ piece ∈ pieces, piece.Proper) ∧ found.flatten = pieces.flatMap WrittenStmt.stmts := by
  induction reads with
  | nil => exact ⟨[], .nil, by simp, rfl⟩
  | cons head _ inductionHypothesis =>
    obtain ⟨_, _, _, readable, readsBlanks⟩ := reads_seqLeft_iff.mp head
    obtain ⟨piece, readsPiece, proper, rfl⟩ := exists_writtenStmt readable
    obtain ⟨pieces, readsPieces, allProper, rest⟩ := inductionHypothesis
    refine ⟨piece :: pieces,
      .cons (reads_seqLeft_iff.mpr ⟨_, _, _, readsPiece, readsBlanks⟩) readsPieces, ?_, ?_⟩
    · rw [List.forall_mem_cons]
      exact ⟨proper, allProper⟩
    · rw [List.flatten_cons, rest, List.flatMap_cons]

/-- Every block that is read is written, and tells of what is. -/
theorem exists_writtenBlock {block : Block}
    (reads : blockRule.Reads (Readable rules) cursor last block after last') :
    ∃ written between, writtenBlock.Reads (Readable rules) cursor last written after between ∧
      TailTold written block := by
  simp only [blockRule, reads_node_iff, reads_seqLeft_iff, reads_seq_iff, reads_map_iff,
    reads_seqRight_iff] at reads
  obtain ⟨_, between, ⟨_, _, _, ⟨_, _, _, tail, ⟨found, ⟨_, _, _, readsOpening,
    readsStmts⟩, rfl⟩, readsTail, rfl⟩, readsClosing⟩, rfl, -⟩ := reads
  obtain ⟨pieces, readsPieces, proper, flat⟩ := exists_writtenStmts readsStmts
  refine ⟨⟨pieces, tail⟩, between, ?_, splitTail_told proper ?_⟩
  · simp only [writtenBlock, reads_seqLeft_iff, reads_seq_iff, reads_map_iff, reads_seqRight_iff]
    exact ⟨_, _, _, ⟨_, _, _, tail, ⟨pieces, ⟨_, _, _, readsOpening, readsPieces⟩,
      rfl⟩, readsTail, rfl⟩, readsClosing⟩
  · rw [WrittenBlock.stmts, ← flat]
    rfl

/-- Another block with the same statements and the same value tells the same. -/
theorem TailTold.relabel {written : WrittenBlock} {block block' : Block}
    (told : TailTold written block) (stmts : block'.stmts = block.stmts)
    (tail : block'.tail = block.tail) : TailTold written block' := by
  constructor
  · rw [tail]
    exact told.present
  · rw [tail]
    exact told.exactly
  · rw [tail, stmts]
    exact told.ofTail
  · rw [tail, stmts]
    exact told.ofBare
  · rw [tail, stmts]
    exact told.ofNone

/-- What is written in a block, and what the block says about it. -/
def BlockWritten (text : List Char) (block : Block) : Prop :=
  ∃ written, BlockRead text block written ∧ TailTold written block

/-- A block from where what may stand before its braces starts. -/
theorem BlockWritten.of_reads {brace : Cursor} {between : Nat} {block block' : Block}
    (on : cursor.On text) (opens : blockOpening.Reads (Readable rules) cursor last () brace between)
    (reads : blockRule.Reads (Readable rules) brace between block after last')
    (span : block'.origin.span = Span.between cursor.offset after.offset)
    (stmts : block'.stmts = block.stmts) (tail : block'.tail = block.tail) :
    BlockWritten text block' := by
  obtain ⟨written, _, readsWritten, told⟩ := exists_writtenBlock reads
  have reaches := (reaches_of_reads opens).trans (reaches_of_reads reads)
  refine ⟨written, ⟨on, ?_, opens, readsWritten, ?_⟩, told.relabel stmts tail⟩
  · rw [span, Span.between_lo]
  · rw [span, Span.between_hi reaches.offset_le]

end DrainLint.Grammar
