import DrainLint.Proofs.Grammar.PlacedItems

/-! # Chains of operands by precedence

A chain of operands is folded in one pass over its operators.  What comes out is the expression that
the grammar with one level for each precedence gives to the chain.

- `Grouping`: the operands of a chain put together two by two, with a mark at each join;
- `Derives`, `derives_iff`: the grammar of chains, where the operators of a level lean to the left;
- `Grouping.eq_of_reading`: a chain is grouped in one way only;
- `Folding`: what holds while a chain is folded; `reduceWhile_folding` and `joinOperands_folding` carry
  it on;
- `joinOperands_groups`: the fold gives the grouping of the grammar, numbered from the inside out;
- `binary_reads_grouping`: so does what is read from a text, and every join spans its operands.
-/

namespace DrainLint.Grammar

open Hir Peg

/-! ## Chains and their groupings -/

/-- Operands and the operators between them, from left to right. -/
abbrev Chain := List (Operand ⊕ BinaryOp)

def chainOf (first : Operand) (rest : List (BinaryOp × Operand)) : Chain :=
  .inl first :: rest.flatMap fun (op, next) => [.inr op, .inl next]

/-- Operands of which none ends before one on its left starts, as those of a text. -/
def InText (operands : List Operand) : Prop :=
  operands.Pairwise fun left right => left.span.lo ≤ right.span.hi

/-- Whether all operators of a chain are of a level or bind more tightly. -/
def Tight (level : Nat) (chain : Chain) : Prop := ∀ op, .inr op ∈ chain → level ≤ op.precedence

/-- The operands of a chain put together two by two.  An operand is a part by itself even if its
expression joins others, as one between parentheses may. -/
inductive Grouping (α : Type) where
  | single (operand : Operand)
  | join (mark : α) (op : BinaryOp) (left right : Grouping α)

namespace Grouping

variable {α : Type}

/-- The operands and operators from left to right. -/
def reading : Grouping α → Chain
  | single operand => [.inl operand]
  | join _ op left right => left.reading ++ .inr op :: right.reading

/-- Whether each operator joins, on its left, operators that bind at least as tightly, and on its
right operators that bind more tightly. -/
def LeansLeft : Grouping α → Prop
  | single _ => True
  | join _ op left right => Tight op.precedence left.reading ∧
    Tight (op.precedence + 1) right.reading ∧ left.LeansLeft ∧ right.LeansLeft

/-- The grouping without its marks. -/
def shape : Grouping α → Grouping Unit
  | single operand => .single operand
  | join _ op left right => .join () op left.shape right.shape

def first : Grouping α → Operand
  | single operand => operand
  | join _ _ left _ => left.first

def last : Grouping α → Operand
  | single operand => operand
  | join _ _ _ right => right.last

/-- The expression that a grouping stands for, with a node for each join. -/
def expr : Grouping Origin → Expr
  | single operand => operand.expr
  | join origin op left right => .binary origin op left.expr right.expr

/-- The numbers of the joins, those of both parts before that of what they make. -/
def numbers : Grouping Origin → List Nat
  | single _ => []
  | join origin _ left right => left.numbers ++ right.numbers ++ [origin.id]

/-- Whether each join reaches from the start of its first operand to the end of its last. -/
def Spanned : Grouping Origin → Prop
  | single _ => True
  | join origin _ left right => origin.span.lo = left.first.span.lo ∧
    origin.span.hi = right.last.span.hi ∧ left.Spanned ∧ right.Spanned

end Grouping

/-! ## The grammar of chains -/

/-- The grammar of chains: what is of a level is what is of the next one, or an operator of the level
with, on its left, what is of the level and, on its right, what is of the next one. -/
inductive Derives : Nat → Chain → Grouping Unit → Prop where
  | single {level : Nat} (operand : Operand) : Derives level [.inl operand] (.single operand)
  | tighter {level : Nat} {chain : Chain} {tree : Grouping Unit}
      (next : Derives (level + 1) chain tree) : Derives level chain tree
  | join {op : BinaryOp} {before after : Chain} {left right : Grouping Unit}
      (derivesLeft : Derives op.precedence before left)
      (derivesRight : Derives (op.precedence + 1) after right) :
      Derives op.precedence (before ++ .inr op :: after) (.join () op left right)

section

variable {level : Nat} {chain before after : Chain} {op : BinaryOp}

theorem Tight.mono {lower : Nat} (tight : Tight level chain) (le : lower ≤ level) :
    Tight lower chain := fun op member => Nat.le_trans le (tight op member)

theorem tight_operand (operand : Operand) : Tight level [.inl operand] := by simp [Tight]

theorem tight_join : Tight level (before ++ .inr op :: after) ↔
    Tight level before ∧ level ≤ op.precedence ∧ Tight level after := by
  simp only [Tight, List.mem_append, List.mem_cons, Sum.inr.injEq]
  constructor
  · intro tight
    exact ⟨fun inner member => tight inner (.inl member), tight op (.inr (.inl rfl)),
      fun inner member => tight inner (.inr (.inr member))⟩
  · rintro ⟨left, here, right⟩ inner (member | rfl | member)
    · exact left inner member
    · exact here
    · exact right inner member

theorem Derives.looser {lower : Nat} {tree : Grouping Unit} (derives : Derives level chain tree)
    (le : lower ≤ level) : Derives lower chain tree := by
  induction le with
  | refl => exact derives
  | step _ inductionHypothesis => exact inductionHypothesis derives.tighter

/-- What the grammar derives reads as the chain, and its operators lean to the left. -/
theorem derives_iff {tree : Grouping Unit} :
    Derives level chain tree ↔ tree.reading = chain ∧ Tight level chain ∧ tree.LeansLeft := by
  constructor
  · intro derives
    induction derives with
    | single operand => exact ⟨rfl, tight_operand operand, trivial⟩
    | tighter _ inductionHypothesis =>
      obtain ⟨reads, tight, leans⟩ := inductionHypothesis
      exact ⟨reads, tight.mono (Nat.le_succ _), leans⟩
    | join _ _ leftHypothesis rightHypothesis =>
      obtain ⟨rfl, tightLeft, leansLeft⟩ := leftHypothesis
      obtain ⟨rfl, tightRight, leansRight⟩ := rightHypothesis
      have tight := tight_join.mpr ⟨tightLeft, Nat.le_refl _, tightRight.mono (Nat.le_succ _)⟩
      exact ⟨rfl, tight, tightLeft, tightRight, leansLeft, leansRight⟩
  · rintro ⟨rfl, tight, leans⟩
    induction tree generalizing level with
    | single operand => exact .single operand
    | join _ op left right leftHypothesis rightHypothesis =>
      obtain ⟨tightLeft, tightRight, leansLeft, leansRight⟩ := leans
      have joined : Derives op.precedence _ (.join () op left right) :=
        .join (leftHypothesis tightLeft leansLeft) (rightHypothesis tightRight leansRight)
      exact joined.looser (tight_join.mp tight).2.1

end

/-! ### One grouping for each chain -/

/-- The operator of the outermost join is the last of those that bind least, so no other place of the
chain has it. -/
theorem outermost_unique {before after before' after' : Chain} {op op' : BinaryOp}
    (left : Tight op.precedence before) (right : Tight (op.precedence + 1) after)
    (left' : Tight op'.precedence before') (right' : Tight (op'.precedence + 1) after')
    (same : before ++ .inr op :: after = before' ++ .inr op' :: after') :
    before = before' ∧ op = op' ∧ after = after' := by
  rcases List.append_eq_append_iff.mp same with ⟨between, rfl, split⟩ | ⟨between, rfl, split⟩
  · cases between with
    | nil =>
      obtain ⟨⟨⟩, rfl⟩ := List.cons.inj split
      exact ⟨(List.append_nil before).symm, rfl, rfl⟩
    | cons head between =>
      -- The other operator would stand to the right of this one, and this one to its left.
      obtain ⟨rfl, rfl⟩ := List.cons.inj split
      have looser : op'.precedence ≤ op.precedence := left' op (by simp)
      have tighter : op.precedence + 1 ≤ op'.precedence := right op' (by simp)
      omega
  · cases between with
    | nil =>
      obtain ⟨⟨⟩, rfl⟩ := List.cons.inj split
      exact ⟨List.append_nil before', rfl, rfl⟩
    | cons head between =>
      obtain ⟨rfl, rfl⟩ := List.cons.inj split
      have looser : op.precedence ≤ op'.precedence := left op' (by simp)
      have tighter : op'.precedence + 1 ≤ op.precedence := right' op (by simp)
      omega

namespace Grouping

variable {α : Type}

theorem reading_ne_join (grouping : Grouping α) {operand : Operand} {op : BinaryOp} {after : Chain} :
    [.inl operand] ≠ grouping.reading ++ .inr op :: after := by
  intro same
  have member : .inr op ∈ [(.inl operand : Operand ⊕ BinaryOp)] := by
    rw [same]
    simp
  simp at member

/-- A chain is grouped in one way only if its operators are to lean to the left. -/
theorem eq_of_reading {tree other : Grouping Unit} (leans : tree.LeansLeft)
    (leans' : other.LeansLeft) (same : tree.reading = other.reading) : tree = other := by
  induction tree generalizing other with
  | single operand =>
    cases other with
    | single operand' =>
      cases same
      rfl
    | join _ op left right => exact absurd same left.reading_ne_join
  | join mark op left right leftHypothesis rightHypothesis =>
    cases other with
    | single operand => exact absurd same.symm left.reading_ne_join
    | join mark' op' left' right' =>
      obtain ⟨tightLeft, tightRight, leansLeft, leansRight⟩ := leans
      obtain ⟨tightLeft', tightRight', leansLeft', leansRight'⟩ := leans'
      obtain ⟨sameLeft, rfl, sameRight⟩ :=
        outermost_unique tightLeft tightRight tightLeft' tightRight' same
      rw [leftHypothesis leansLeft leansLeft' sameLeft,
        rightHypothesis leansRight leansRight' sameRight]

@[simp] theorem reading_shape (grouping : Grouping α) : grouping.shape.reading = grouping.reading := by
  induction grouping with
  | single operand => rfl
  | join mark op left right leftHypothesis rightHypothesis =>
    simp only [shape, reading, leftHypothesis, rightHypothesis]

@[simp] theorem leansLeft_shape (grouping : Grouping α) :
    grouping.shape.LeansLeft ↔ grouping.LeansLeft := by
  induction grouping with
  | single operand => exact Iff.rfl
  | join mark op left right leftHypothesis rightHypothesis =>
    simp only [shape, LeansLeft, reading_shape, leftHypothesis, rightHypothesis]

/-! ## Groupings that are built -/

def span : Grouping Origin → Span
  | single operand => operand.span
  | join origin _ _ _ => origin.span

/-- The grouping as an operand of others. -/
def whole (grouping : Grouping Origin) : Operand := ⟨grouping.span, grouping.expr⟩

/-- Whether each join stands between the ends of what it joins. -/
def Between : Grouping Origin → Prop
  | single _ => True
  | join origin _ left right => origin.span = Span.between left.span.lo right.span.hi ∧
    left.Between ∧ right.Between

def operands : Grouping α → List Operand
  | single operand => [operand]
  | join _ _ left right => left.operands ++ right.operands

theorem operands_eq (grouping : Grouping α) :
    grouping.operands = grouping.reading.filterMap Sum.getLeft? := by
  induction grouping with
  | single operand => rfl
  | join mark op left right leftHypothesis rightHypothesis =>
    rw [operands, reading, List.filterMap_append, List.filterMap_cons_none rfl, leftHypothesis,
      rightHypothesis]

theorem first_mem (grouping : Grouping α) : grouping.first ∈ grouping.operands := by
  induction grouping with
  | single operand => exact List.mem_singleton_self operand
  | join mark op left right leftHypothesis =>
    exact List.mem_append_left _ leftHypothesis

theorem last_mem (grouping : Grouping α) : grouping.last ∈ grouping.operands := by
  induction grouping with
  | single operand => exact List.mem_singleton_self operand
  | join mark op left right _ rightHypothesis =>
    exact List.mem_append_right _ rightHypothesis

theorem Between.bounds {grouping : Grouping Origin} (between : grouping.Between)
    (inText : InText grouping.operands) :
    grouping.span.lo = grouping.first.span.lo ∧ grouping.span.hi = grouping.last.span.hi ∧
      grouping.Spanned := by
  induction grouping with
  | single operand => exact ⟨rfl, rfl, trivial⟩
  | join origin op left right leftHypothesis rightHypothesis =>
    obtain ⟨stands, betweenLeft, betweenRight⟩ := between
    obtain ⟨inLeft, inRight, across⟩ := List.pairwise_append.mp inText
    obtain ⟨starts, _, spannedLeft⟩ := leftHypothesis betweenLeft inLeft
    obtain ⟨_, ends, spannedRight⟩ := rightHypothesis betweenRight inRight
    have ordered := across _ left.first_mem _ right.last_mem
    rw [starts, ends] at stands
    have lo : origin.span.lo = left.first.span.lo := by rw [stands, Span.between_lo]
    have hi : origin.span.hi = right.last.span.hi := by rw [stands, Span.between_hi ordered]
    exact ⟨lo, hi, lo, hi, spannedLeft, spannedRight⟩

theorem length_numbers (grouping : Grouping Origin) :
    grouping.numbers.length = grouping.reading.countP Sum.isRight := by
  induction grouping with
  | single operand => rfl
  | join origin op left right leftHypothesis rightHypothesis =>
    rw [numbers, reading, List.length_append, List.length_append, List.length_singleton,
      List.countP_append, List.countP_cons_of_pos rfl, leftHypothesis, rightHypothesis,
      Nat.add_assoc]

end Grouping

/-! ## The fold -/

/-- What a chain is folded to, with numbers from one on: it reads as the chain, its operators lean to
the left, it is the one that the grammar derives, each operator has one number, and every join spans
its operands where these stand in the order of a text. -/
structure Grouping.FoldOf (grouping : Grouping Origin) (first : Operand)
    (rest : List (BinaryOp × Operand)) (number : Nat) : Prop where
  reading : grouping.reading = chainOf first rest
  leansLeft : grouping.LeansLeft
  derived : ∀ tree, Derives 1 (chainOf first rest) tree ↔ tree = grouping.shape
  numbers : grouping.numbers = List.range' number rest.length
  spanned : InText (first :: rest.map Prod.snd) → grouping.Spanned

/-- A grouping that waits for what stands to the right of its operator. -/
abbrev Waiting := Grouping Origin × BinaryOp

namespace Waiting

def held (waiting : Waiting) : Operand × BinaryOp := (waiting.1.whole, waiting.2)

def chain (waiting : Waiting) : Chain := waiting.1.reading ++ [.inr waiting.2]

/-- Whether a grouping with its operator may become the left part of a join. -/
structure Fits (waiting : Waiting) : Prop where
  tight : Tight waiting.2.precedence waiting.1.reading
  leansLeft : waiting.1.LeansLeft
  between : waiting.1.Between

end Waiting

/-- What holds while a chain is folded, with groupings that wait, the innermost first, the grouping
that was made last, and the last number that was handed out. -/
structure Folding (start : Nat) (chain : Chain) (pending : List Waiting)
    (current : Grouping Origin) (number : Nat) : Prop where
  reading : pending.reverse.flatMap Waiting.chain ++ current.reading = chain
  numbers : pending.reverse.flatMap (fun waiting => waiting.1.numbers) ++ current.numbers =
    List.range' (start + 1) (number - start)
  started : start ≤ number
  rising : pending.Pairwise fun inner outer => outer.2.precedence < inner.2.precedence
  fits : ∀ waiting ∈ pending, waiting.Fits
  above : ∀ waiting ∈ pending, Tight (waiting.2.precedence + 1) current.reading
  leansLeft : current.LeansLeft
  between : current.Between

section

variable {start number : Nat} {chain : Chain} {pending : List Waiting} {current : Grouping Origin}

/-- A grouping that waits may be joined to what is on its right. -/
theorem Folding.join {lhs : Grouping Origin} {op : BinaryOp}
    (folding : Folding start chain ((lhs, op) :: pending) current number) :
    Folding start chain pending
      (.join ⟨number + 1, Span.between lhs.span.lo current.span.hi⟩ op lhs current)
      (number + 1) := by
  obtain ⟨looser, rising⟩ := List.pairwise_cons.mp folding.rising
  have fitsLeft := folding.fits (lhs, op) List.mem_cons_self
  have tightRight := folding.above (lhs, op) List.mem_cons_self
  refine ⟨?_, ?_, Nat.le_succ_of_le folding.started, rising,
    fun waiting member => folding.fits waiting (List.mem_cons_of_mem _ member),
    fun waiting member => ?_, ⟨fitsLeft.tight, tightRight, fitsLeft.leansLeft, folding.leansLeft⟩,
    ⟨rfl, fitsLeft.between, folding.between⟩⟩
  · rw [← folding.reading]
    simp [Grouping.reading, Waiting.chain]
  · have count : number + 1 - start = number - start + 1 := Nat.succ_sub folding.started
    have next : start + 1 + (number - start) = number + 1 := by
      have := folding.started
      omega
    rw [count, List.range'_1_concat, next, ← folding.numbers]
    simp [Grouping.numbers]
  · -- What waits further out binds less tightly than the operator, so than all that it joins.
    have below : waiting.2.precedence + 1 ≤ op.precedence := looser waiting member
    have right := folding.above waiting (List.mem_cons_of_mem _ member)
    exact tight_join.mpr ⟨fitsLeft.tight.mono below, below, right⟩

/-- After what binds at least as tightly as an operator is joined, the operator waits, and the operand
after it is the last grouping. -/
theorem Folding.push {op : BinaryOp} (folding : Folding start chain pending current number)
    (tight : Tight op.precedence current.reading)
    (looser : ∀ waiting ∈ pending, waiting.2.precedence < op.precedence) (next : Operand) :
    Folding start (chain ++ [.inr op, .inl next]) ((current, op) :: pending) (.single next)
      number where
  reading := by
    rw [← folding.reading]
    simp [Grouping.reading, Waiting.chain]
  numbers := by
    rw [← folding.numbers]
    simp [Grouping.numbers]
  started := folding.started
  rising := .cons looser folding.rising
  fits := List.forall_mem_cons.mpr ⟨⟨tight, folding.leansLeft, folding.between⟩, folding.fits⟩
  above _ _ := tight_operand next
  leansLeft := trivial
  between := trivial

/-- What is joined before an operator waits: all that binds at least as tightly. -/
theorem reduceWhile_folding (level : Nat)
    (folding : Folding start chain pending current number) (tight : Tight level current.reading) :
    ∃ waiting lhs number', reduceWhile level (pending.map Waiting.held) current.whole number =
        .ok ((waiting.map Waiting.held, lhs.whole), number') ∧
      Folding start chain waiting lhs number' ∧ Tight level lhs.reading ∧
        ∀ outer ∈ waiting, outer.2.precedence < level := by
  induction pending generalizing current number with
  | nil => exact ⟨[], current, number, rfl, folding, tight, by simp⟩
  | cons innermost pending inductionHypothesis =>
    obtain ⟨lhs, op⟩ := innermost
    by_cases binds : level ≤ op.precedence
    · have tightJoin := tight_join.mpr
        ⟨(folding.fits (lhs, op) List.mem_cons_self).tight.mono binds, binds, tight⟩
      obtain ⟨waiting, whole, number', reduced, rest⟩ :=
        inductionHypothesis folding.join tightJoin
      refine ⟨waiting, whole, number', ?_, rest⟩
      rw [List.map_cons, Waiting.held, reduceWhile, if_pos binds]
      exact reduced
    · have innermost : op.precedence < level := Nat.lt_of_not_le binds
      have looser : ∀ outer ∈ pending, outer.2.precedence < level := fun outer member =>
        Nat.lt_trans (List.rel_of_pairwise_cons folding.rising member) innermost
      refine ⟨(lhs, op) :: pending, current, number, ?_, folding, tight,
        List.forall_mem_cons.mpr ⟨innermost, looser⟩⟩
      rw [List.map_cons, Waiting.held, reduceWhile, if_neg binds]
      rfl

theorem joinOperands_folding {last : Operand} (rest : List (BinaryOp × Operand))
    (folding : Folding start chain pending (.single last) number) :
    ∃ grouping number', joinOperands (pending.map Waiting.held) last rest number =
        .ok (grouping.whole, number') ∧
      Folding start (chain ++ rest.flatMap fun (op, next) => [.inr op, .inl next]) [] grouping
        number' := by
  induction rest generalizing chain pending last number with
  | nil =>
    obtain ⟨waiting, grouping, number', reduced, folded, -, looser⟩ :=
      reduceWhile_folding 0 folding (tight_operand last)
    -- No operator binds less tightly than at level zero, so nothing is left to wait.
    obtain rfl : waiting = [] :=
      List.eq_nil_iff_forall_not_mem.mpr fun outer member => Nat.not_lt_zero _ (looser outer member)
    refine ⟨grouping, number', Build.bind_eq_ok.mpr ⟨_, _, reduced, rfl⟩, ?_⟩
    simpa using folded
  | cons head rest inductionHypothesis =>
    obtain ⟨op, next⟩ := head
    obtain ⟨waiting, lhs, between, reduced, folded, tight, looser⟩ :=
      reduceWhile_folding op.precedence folding (tight_operand last)
    obtain ⟨grouping, number', joined, whole⟩ :=
      inductionHypothesis (folded.push tight looser next)
    refine ⟨grouping, number', Build.bind_eq_ok.mpr ⟨_, _, reduced, joined⟩, ?_⟩
    simpa using whole

end

theorem one_le_precedence (op : BinaryOp) : 1 ≤ op.precedence := by cases op <;> decide

theorem countP_chainOf (first : Operand) (rest : List (BinaryOp × Operand)) :
    (chainOf first rest).countP Sum.isRight = rest.length := by
  rw [chainOf, List.countP_cons_of_neg (by simp)]
  induction rest with
  | nil => rfl
  | cons head rest inductionHypothesis =>
    rw [List.flatMap_cons, List.countP_append, inductionHypothesis, List.length_cons, Nat.add_comm]
    rfl

theorem operands_chainOf (first : Operand) (rest : List (BinaryOp × Operand)) :
    (chainOf first rest).filterMap Sum.getLeft? = first :: rest.map Prod.snd := by
  refine congrArg (List.cons first) ?_
  induction rest with
  | nil => rfl
  | cons head rest inductionHypothesis =>
    rw [List.flatMap_cons, List.filterMap_append, inductionHypothesis]
    rfl

theorem Folding.begins (first : Operand) (number : Nat) :
    Folding number [.inl first] [] (.single first) number :=
  ⟨rfl, by simp [Grouping.numbers], Nat.le_refl _, .nil, by simp, by simp, trivial, trivial⟩

/-- What is left when nothing waits any more is what the chain is folded to. -/
theorem Folding.foldOf {number number' : Nat} {first : Operand} {rest : List (BinaryOp × Operand)}
    {grouping : Grouping Origin}
    (folded : Folding number (chainOf first rest) [] grouping number') :
    grouping.FoldOf first rest (number + 1) ∧ number' = number + rest.length := by
  have reading : grouping.reading = chainOf first rest := folded.reading
  have numbers : grouping.numbers = List.range' (number + 1) (number' - number) := folded.numbers
  have count : number' - number = rest.length := by
    rw [← countP_chainOf first rest, ← reading, ← grouping.length_numbers, numbers,
      List.length_range']
  have started := folded.started
  refine ⟨⟨reading, folded.leansLeft, fun tree => ?_, count ▸ numbers, fun inText => ?_⟩, by omega⟩
  · rw [derives_iff]
    have tight : Tight 1 (chainOf first rest) := fun op _ => one_le_precedence op
    have leans := grouping.leansLeft_shape.mpr folded.leansLeft
    have shapeReading := grouping.reading_shape.trans reading
    constructor
    · rintro ⟨reads, -, leansLeft⟩
      exact tree.eq_of_reading leansLeft leans (reads.trans shapeReading.symm)
    · rintro rfl
      exact ⟨shapeReading, tight, leans⟩
  · rw [← operands_chainOf, ← reading, ← grouping.operands_eq] at inText
    exact (folded.between.bounds inText).2.2

/-- Every chain is folded to an expression, and to the one that the grammar of chains derives: its
operators lean to the left, its joins are numbered one by one and from the inside out, and each of them
reaches from the start of its first operand to the end of its last. -/
theorem joinOperands_groups (first : Operand) (rest : List (BinaryOp × Operand)) (number : Nat) :
    ∃ grouping : Grouping Origin, grouping.FoldOf first rest (number + 1) ∧
      joinOperands [] first rest number = .ok (grouping.whole, number + rest.length) := by
  obtain ⟨grouping, number', joined, folded⟩ :=
    joinOperands_folding rest (Folding.begins first number)
  obtain ⟨foldOf, rfl⟩ := folded.foldOf
  exact ⟨grouping, foldOf, joined⟩

/-- Operators of one precedence lean to the left, and one that binds more tightly is joined first. -/
example (a b c d : Operand) :
    let product := Grouping.join ⟨1, .between b.span.lo c.span.hi⟩ .mul (.single b) (.single c)
    let difference := Grouping.join ⟨2, .between a.span.lo product.span.hi⟩ .sub (.single a) product
    joinOperands [] a [(.sub, b), (.mul, c), (.sub, d)] 0 =
      .ok ((Grouping.join ⟨3, .between a.span.lo d.span.hi⟩ .sub difference (.single d)).whole, 3) :=
  rfl

/-! ### Chains of a text -/

theorem InOrder.inText {lo hi : Nat} {operands : List Operand} (ordered : InOrder lo hi operands) :
    (∀ operand ∈ operands, lo ≤ operand.span.lo) ∧ InText operands := by
  induction operands generalizing lo with
  | nil => exact ⟨by simp, .nil⟩
  | cons operand operands inductionHypothesis =>
    obtain ⟨starts, _, _, rest⟩ := ordered
    obtain ⟨later, inText⟩ := inductionHypothesis rest
    have bounds := operand.span.lo_le_hi
    refine ⟨List.forall_mem_cons.mpr ⟨starts, fun other member => ?_⟩,
      .cons (fun other member => ?_) inText⟩
    · have := later other member
      omega
    · have := later other member
      have := other.span.lo_le_hi
      omega

/-- What a text has in the place of a chain is the expression that the grammar of chains derives for
the operands and operators that are read there, and every join spans its operands. -/
theorem binary_reads_grouping {cursor after : Cursor} {last last' : Nat} {value : Expr}
    (readable : Readable rules .binary cursor last value after last') :
    ∃ first rest between, ∃ grouping : Grouping Origin,
      (Prod.mk <$> operand <*> .many (Prod.mk <$> (ws *> .token binaryOp <* ws) <*> operand) :
        G (Operand × List (BinaryOp × Operand))).Reads (Readable rules) cursor last (first, rest)
          after between ∧
        grouping.FoldOf first rest (between + 1) ∧ grouping.Spanned ∧ value = grouping.expr := by
  obtain ⟨⟨first, rest⟩, between, reads, built⟩ := readable.reads
  obtain ⟨whole, joined, rfl⟩ := Build.map_eq_ok.mp built
  obtain ⟨grouping, number', joins, folded⟩ :=
    joinOperands_folding rest (Folding.begins first between)
  obtain ⟨rfl, rfl⟩ := Prod.mk.inj (Except.ok.inj (joins.symm.trans joined))
  -- Operands that are read one after the other stand in the order of the text.
  have placed := Peg.Reads.mono (fun _ {_ _ _ _ _} inner => placed_readable inner) _ reads
  obtain ⟨-, middle, carriesFirst, carriesRest⟩ := Places.places placed
  have carries : Carries _ _ (first :: rest.map Prod.snd) :=
    ⟨middle, carriesFirst, InRow.map_snd carriesRest⟩
  have foldOf := folded.foldOf.1
  exact ⟨first, rest, between, grouping, reads, foldOf,
    foldOf.spanned (InOrder.of_carries carries).inText.2, rfl⟩

end DrainLint.Grammar
