import DrainLint.Peg.Run

/-! # What a grammar reads

The run of a grammar remembers what it found and puts off the building of values.  A reading says
what comes of it: a value built from a piece of text, with the numbers handed out for its nodes.

- `Reads`: the readings of an expression, given those of the rules;
- `reads_map_iff`, `reads_seq_iff`, …: the readings of composed expressions;
- `Readable`: the least readings of the rules of a grammar;
- `Cursor.Reaches`, `Reads.reaches`: a reading goes on in the same text;
- `run_keeps`, `runRule_keeps`: a run finds readings only;
- `match?_readable`: so does the match of a rule at the start of a text.
-/

namespace DrainLint

/-! ## Builds that succeed -/

namespace Hir.Build

variable {α β : Type} {last last' : Nat}

theorem pure_eq_ok {value built : α} :
    (pure value : Build α) last = .ok (built, last') ↔ built = value ∧ last' = last := by
  constructor
  · rintro ⟨⟩
    exact ⟨rfl, rfl⟩
  · rintro ⟨rfl, rfl⟩
    rfl

theorem bind_eq_ok {first : Build α} {next : α → Build β} {built : β} :
    (first >>= next) last = .ok (built, last') ↔
      ∃ value middle, first last = .ok (value, middle) ∧ next value middle = .ok (built, last') := by
  show Except.bind (first last) (fun pair => next pair.1 pair.2) = _ ↔ _
  cases first last with
  | error fault =>
    constructor
    · rintro ⟨⟩
    · rintro ⟨value, middle, ⟨⟩, _⟩
  | ok pair =>
    constructor
    · intro succeeded
      exact ⟨pair.1, pair.2, rfl, succeeded⟩
    · rintro ⟨value, middle, ⟨⟩, succeeded⟩
      exact succeeded

theorem map_eq_ok {f : α → β} {piece : Build α} {built : β} :
    (f <$> piece) last = .ok (built, last') ↔
      ∃ value, piece last = .ok (value, last') ∧ built = f value := by
  show (piece >>= fun value => pure (f value)) last = _ ↔ _
  rw [bind_eq_ok]
  constructor
  · rintro ⟨value, middle, found, mapped⟩
    obtain ⟨rfl, rfl⟩ := pure_eq_ok.mp mapped
    exact ⟨value, found, rfl⟩
  · rintro ⟨value, found, rfl⟩
    exact ⟨value, last', found, rfl⟩

theorem node_eq_ok {span : Span} {make : Origin → α} {built : α} :
    node span make last = .ok (built, last') ↔
      built = make ⟨last + 1, span⟩ ∧ last' = last + 1 := by
  constructor
  · rintro ⟨⟩
    exact ⟨rfl, rfl⟩
  · rintro ⟨rfl, rfl⟩
    rfl

theorem ofExcept_eq_ok {result : Except LiteralFault α} {built : α} :
    ofExcept result last = .ok (built, last') ↔ result = .ok built ∧ last' = last := by
  cases result with
  | error fault =>
    constructor
    · rintro ⟨⟩
    · rintro ⟨⟨⟩, _⟩
  | ok value =>
    constructor
    · rintro ⟨⟩
      exact ⟨rfl, rfl⟩
    · rintro ⟨⟨⟩, rfl⟩
      rfl

end Hir.Build

namespace Peg

open Hir (Build)

/-! ## Readings -/

/-- A reading of a value: the place and the last number before it, the value, and the place and the
last number after it. -/
abbrev Reading (α : Type) := Cursor → Nat → α → Cursor → Nat → Prop

/-- Readings of a piece, one after the other. -/
inductive Repeats {α : Type} (piece : Reading α) : Reading (List α) where
  | nil {cursor : Cursor} {last : Nat} : Repeats piece cursor last [] cursor last
  | cons {cursor middle after : Cursor} {last between last' : Nat} {value : α} {values : List α} :
      piece cursor last value middle between →
      Repeats piece middle between values after last' →
      Repeats piece cursor last (value :: values) after last'

variable {Rule : Type} {Val : Rule → Type} {α : Type}

/-- The readings of an expression, given those of the rules.  What an expression must not match is
left out: a reading by the second choice does not say that the first one fails. -/
def Reads (rules : (name : Rule) → Reading (Val name)) : {α : Type} → Peg Rule Val α → Reading α
  | _, .pure value => fun cursor last built after last' =>
    built = value ∧ after = cursor ∧ last' = last
  | _, .token scan => fun cursor last built after last' =>
    ∃ count, scan cursor.rest = some (built, count) ∧ after = cursor.advance count ∧ last' = last
  | _, .rule name => rules name
  | _, .seqWith combine first second => fun cursor last built after last' =>
    ∃ value middle between value', first.Reads rules cursor last value middle between ∧
      second.Reads rules middle between value' after last' ∧ built = combine value value'
  | _, .choice first second => fun cursor last built after last' =>
    first.Reads rules cursor last built after last' ∨ second.Reads rules cursor last built after last'
  | _, .optional piece => fun cursor last built after last' =>
    (∃ value, piece.Reads rules cursor last value after last' ∧ built = some value) ∨
      (built = none ∧ after = cursor ∧ last' = last)
  | _, .many piece => Repeats (piece.Reads rules)
  | _, .notAhead _ => fun cursor last _ after last' => after = cursor ∧ last' = last
  | _, .spanned piece => fun cursor last built after last' =>
    ∃ value, piece.Reads rules cursor last value after last' ∧
      built = (Span.between cursor.offset after.offset, value)
  | _, .captured piece => fun cursor last built after last' =>
    ∃ value, piece.Reads rules cursor last value after last' ∧
      built = (cursor.rest.take (after.offset - cursor.offset), value)
  | _, .building next piece => fun cursor last built after last' =>
    ∃ value between, piece.Reads rules cursor last value after between ∧
      next value between = .ok (built, last')

theorem Repeats.mono {piece piece' : Reading α}
    (weaker : ∀ {cursor last value after last'}, piece cursor last value after last' →
      piece' cursor last value after last')
    {cursor after : Cursor} {last last' : Nat} {values : List α}
    (repeats : Repeats piece cursor last values after last') :
    Repeats piece' cursor last values after last' := by
  induction repeats with
  | nil => exact .nil
  | cons head _ inductionHypothesis => exact .cons (weaker head) inductionHypothesis

theorem Repeats.snoc {piece : Reading α} {cursor middle after : Cursor} {last between last' : Nat}
    {values : List α} {value : α} (repeats : Repeats piece cursor last values middle between)
    (final : piece middle between value after last') :
    Repeats piece cursor last (values ++ [value]) after last' := by
  induction repeats with
  | nil => exact .cons final .nil
  | cons head _ inductionHypothesis => exact .cons head (inductionHypothesis final)

theorem Reads.mono {rules rules' : (name : Rule) → Reading (Val name)}
    (weaker : ∀ name {cursor last value after last'}, rules name cursor last value after last' →
      rules' name cursor last value after last') (piece : Peg Rule Val α) :
    ∀ {cursor last value after last'}, piece.Reads rules cursor last value after last' →
      piece.Reads rules' cursor last value after last' := by
  induction piece with
  | pure | token | notAhead => exact fun reads => reads
  | rule name => exact weaker name
  | seqWith combine first second firstHypothesis secondHypothesis =>
    rintro cursor last value after last' ⟨value, middle, between, value', reads, reads', built⟩
    exact ⟨value, middle, between, value', firstHypothesis reads, secondHypothesis reads', built⟩
  | choice first second firstHypothesis secondHypothesis =>
    exact fun reads => reads.imp firstHypothesis secondHypothesis
  | optional piece inductionHypothesis =>
    exact fun reads => reads.imp
      (fun ⟨value, reads, built⟩ => ⟨value, inductionHypothesis reads, built⟩) id
  | many piece inductionHypothesis => exact fun reads => Repeats.mono inductionHypothesis reads
  | spanned piece inductionHypothesis | captured piece inductionHypothesis =>
    rintro cursor last value after last' ⟨value, reads, built⟩
    exact ⟨value, inductionHypothesis reads, built⟩
  | building next piece inductionHypothesis =>
    rintro cursor last value after last' ⟨value, between, reads, built⟩
    exact ⟨value, between, inductionHypothesis reads, built⟩

/-! ## Readings of composed expressions -/

section

variable {rules : (name : Rule) → Reading (Val name)} {β : Type} {cursor after : Cursor}
  {last last' : Nat}

theorem reads_map_iff {f : α → β} {piece : Peg Rule Val α} {built : β} :
    (f <$> piece).Reads rules cursor last built after last' ↔
      ∃ value, piece.Reads rules cursor last value after last' ∧ built = f value := by
  constructor
  · rintro ⟨value, between, reads, mapped⟩
    obtain ⟨rfl, rfl⟩ := Build.pure_eq_ok.mp mapped
    exact ⟨value, reads, rfl⟩
  · rintro ⟨value, reads, rfl⟩
    exact ⟨value, last', reads, rfl⟩

theorem reads_seq_iff {first : Peg Rule Val (α → β)} {second : Peg Rule Val α} {built : β} :
    (first <*> second).Reads rules cursor last built after last' ↔
      ∃ f middle between value, first.Reads rules cursor last f middle between ∧
        second.Reads rules middle between value after last' ∧ built = f value := Iff.rfl

theorem reads_seqLeft_iff {first : Peg Rule Val α} {second : Peg Rule Val β} {built : α} :
    (first <* second).Reads rules cursor last built after last' ↔
      ∃ middle between value', first.Reads rules cursor last built middle between ∧
        second.Reads rules middle between value' after last' := by
  constructor
  · rintro ⟨value, middle, between, value', reads, reads', rfl⟩
    exact ⟨middle, between, value', reads, reads'⟩
  · rintro ⟨middle, between, value', reads, reads'⟩
    exact ⟨built, middle, between, value', reads, reads', rfl⟩

theorem reads_seqRight_iff {first : Peg Rule Val α} {second : Peg Rule Val β} {built : β} :
    (first *> second).Reads rules cursor last built after last' ↔
      ∃ middle between value, first.Reads rules cursor last value middle between ∧
        second.Reads rules middle between built after last' := by
  constructor
  · rintro ⟨value, middle, between, value', reads, reads', rfl⟩
    exact ⟨middle, between, value, reads, reads'⟩
  · rintro ⟨middle, between, value, reads, reads'⟩
    exact ⟨value, middle, between, built, reads, reads', rfl⟩

theorem reads_orElse_iff {first second : Peg Rule Val α} {built : α} :
    (first <|> second).Reads rules cursor last built after last' ↔
      first.Reads rules cursor last built after last' ∨
        second.Reads rules cursor last built after last' := Iff.rfl

theorem reads_optionalList_iff {pieces : Peg Rule Val (List α)} {values : List α} :
    (optionalList pieces).Reads rules cursor last values after last' ↔
      pieces.Reads rules cursor last values after last' ∨
        values = [] ∧ after = cursor ∧ last' = last := by
  rw [optionalList, reads_map_iff]
  constructor
  · rintro ⟨_, ⟨values, reads, rfl⟩ | ⟨rfl, reached⟩, rfl⟩
    · exact .inl reads
    · exact .inr ⟨rfl, reached⟩
  · rintro (reads | ⟨rfl, reached⟩)
    · exact ⟨some values, .inl ⟨values, reads, rfl⟩, rfl⟩
    · exact ⟨none, .inr ⟨rfl, reached⟩, rfl⟩

/-- A node takes the number after those of what is in it. -/
theorem reads_node_iff {piece : Peg Rule Val (Hir.Origin → α)} {built : α} :
    (node piece).Reads rules cursor last built after last' ↔
      ∃ make between, piece.Reads rules cursor last make after between ∧
        built = make ⟨between + 1, Span.between cursor.offset after.offset⟩ ∧
          last' = between + 1 := by
  constructor
  · rintro ⟨⟨span, make⟩, between, ⟨_, reads, same⟩, succeeded⟩
    obtain ⟨rfl, rfl⟩ := Prod.mk.inj same
    obtain ⟨rfl, rfl⟩ := Build.node_eq_ok.mp succeeded
    exact ⟨make, between, reads, rfl, rfl⟩
  · rintro ⟨make, between, reads, rfl, rfl⟩
    exact ⟨⟨_, make⟩, between, ⟨make, reads, rfl⟩, rfl⟩

end

/-! ## Readings go on in the text -/

/-- A place that is reached from another by reading on. -/
def Cursor.Reaches (cursor after : Cursor) : Prop := ∃ count, after = cursor.advance count

theorem Cursor.Reaches.refl (cursor : Cursor) : cursor.Reaches cursor := ⟨0, rfl⟩

theorem Cursor.Reaches.trans {cursor middle after : Cursor} (first : cursor.Reaches middle)
    (second : middle.Reaches after) : cursor.Reaches after := by
  obtain ⟨count, rfl⟩ := first
  obtain ⟨more, rfl⟩ := second
  exact ⟨count + more, by simp [Cursor.advance, Nat.add_assoc]⟩

theorem Cursor.Reaches.offset_le {cursor after : Cursor} (reaches : cursor.Reaches after) :
    cursor.offset ≤ after.offset := by
  obtain ⟨count, rfl⟩ := reaches
  exact Nat.le_add_right _ _

theorem Reads.reaches {rules : (name : Rule) → Reading (Val name)}
    (reach : ∀ name {cursor last value after last'}, rules name cursor last value after last' →
      cursor.Reaches after) (piece : Peg Rule Val α) :
    ∀ {cursor last value after last'}, piece.Reads rules cursor last value after last' →
      cursor.Reaches after := by
  induction piece with
  | pure value =>
    rintro cursor last _ _ _ ⟨_, rfl, _⟩
    exact .refl _
  | token scan =>
    rintro cursor last value _ _ ⟨count, _, rfl, _⟩
    exact ⟨count, rfl⟩
  | rule name => exact reach name
  | seqWith combine first second firstHypothesis secondHypothesis =>
    rintro cursor last _ after last' ⟨_, _, _, _, reads, reads', _⟩
    exact (firstHypothesis reads).trans (secondHypothesis reads')
  | choice first second firstHypothesis secondHypothesis =>
    exact fun reads => reads.elim firstHypothesis secondHypothesis
  | optional piece inductionHypothesis =>
    rintro cursor last _ _ _ (⟨_, reads, _⟩ | ⟨_, rfl, _⟩)
    · exact inductionHypothesis reads
    · exact .refl _
  | many piece inductionHypothesis =>
    intro cursor last values after last' repeats
    induction repeats with
    | nil => exact .refl _
    | cons head _ reachesRest => exact (inductionHypothesis head).trans reachesRest
  | notAhead piece =>
    rintro cursor last _ _ _ ⟨rfl, _⟩
    exact .refl _
  | spanned piece inductionHypothesis | captured piece inductionHypothesis =>
    rintro cursor last _ after last' ⟨_, reads, _⟩
    exact inductionHypothesis reads
  | building next piece inductionHypothesis =>
    rintro cursor last _ after last' ⟨_, _, reads, _⟩
    exact inductionHypothesis reads

/-! ## The readings of a grammar -/

variable (grammar : (name : Rule) → Peg Rule Val (Val name))

/-- Readings of the rules that contain whatever the expressions of the rules read from them. -/
def Closed (rules : (name : Rule) → Reading (Val name)) : Prop :=
  ∀ name {cursor last value after last'},
    (grammar name).Reads rules cursor last value after last' →
      rules name cursor last value after last'

/-- The least readings of the rules of a grammar. -/
def Readable (name : Rule) : Reading (Val name) := fun cursor last value after last' =>
  ∀ rules, Closed grammar rules → rules name cursor last value after last'

theorem readable_closed : Closed grammar (Readable grammar) := by
  intro name cursor last value after last' reads rules closed
  exact closed name (Reads.mono (fun _ {_ _ _ _ _} readable => readable rules closed) _ reads)

variable {grammar}

theorem Readable.reads {name : Rule} {cursor after : Cursor} {last last' : Nat} {value : Val name}
    (readable : Readable grammar name cursor last value after last') :
    (grammar name).Reads (Readable grammar) cursor last value after last' := by
  -- The readings of the expressions are themselves closed, and the readable ones are the least.
  apply readable fun name => (grammar name).Reads (Readable grammar)
  intro name cursor last value after last' reads
  exact Reads.mono (fun _ {_ _ _ _ _} inner => readable_closed grammar _ inner) _ reads

theorem Readable.reaches {name : Rule} {cursor after : Cursor} {last last' : Nat}
    {value : Val name} (readable : Readable grammar name cursor last value after last') :
    cursor.Reaches after :=
  readable (fun _ cursor _ _ after _ => cursor.Reaches after) fun name {_ _ _ _ _} reads =>
    Reads.reaches (fun _ {_ _ _ _ _} reaches => reaches) (grammar name) reads

theorem reaches_of_reads {piece : Peg Rule Val α} {cursor after : Cursor} {last last' : Nat} {value : α}
    (reads : piece.Reads (Readable grammar) cursor last value after last') : cursor.Reaches after :=
  Reads.reaches (fun _ {_ _ _ _ _} readable => readable.reaches) piece reads

/-! ## Runs find readings -/

section

variable [DecidableEq Rule] [Hashable Rule]

/-- A run that keeps what is remembered in order and comes to what is wanted. -/
def Keeps {β : Type} (inOrder : Memo Rule Val → Prop) (run : Run Rule Val β) (wanted : β → Prop) :
    Prop :=
  ∀ memo, inOrder memo → wanted (run.run memo).1 ∧ inOrder (run.run memo).2

variable {β γ : Type} {inOrder : Memo Rule Val → Prop}

theorem Keeps.pure {value : β} {wanted : β → Prop} (holds : wanted value) :
    Keeps inOrder (Pure.pure value : Run Rule Val β) wanted := fun _ ordered => ⟨holds, ordered⟩

theorem Keeps.bind {first : Run Rule Val β} {next : β → Run Rule Val γ} {middle : β → Prop}
    {wanted : γ → Prop} (before : Keeps inOrder first middle)
    (after : ∀ value, middle value → Keeps inOrder (next value) wanted) :
    Keeps inOrder (first >>= next) wanted := by
  intro memo ordered
  obtain ⟨found, kept⟩ := before memo ordered
  exact after _ found _ kept

end

/-- A place in a text. -/
def Cursor.On (text : List Char) (cursor : Cursor) : Prop :=
  cursor.rest = text.drop cursor.offset

theorem Cursor.On.advance {text : List Char} {cursor : Cursor} (on : cursor.On text)
    (count : Nat) : (cursor.advance count).On text := by
  rw [Cursor.On, Cursor.advance, on, List.drop_drop]

theorem Cursor.On.of_reaches {text : List Char} {cursor after : Cursor} (on : cursor.On text)
    (reaches : cursor.Reaches after) : after.On text := by
  obtain ⟨count, rfl⟩ := reaches
  exact on.advance count

/-- An outcome whose build, where it succeeds, gives a reading. -/
def Yields (text : List Char) (reading : Reading α) (cursor : Cursor) (outcome : Outcome α) : Prop :=
  ∀ build after, outcome = some (build, after) → after.On text ∧
    ∀ last value last', build last = .ok (value, last') → reading cursor last value after last'

theorem Yields.none {text : List Char} {reading : Reading α} {cursor : Cursor} :
    Yields text reading cursor none := by
  rintro build after ⟨⟩

theorem Yields.some {text : List Char} {reading : Reading α} {cursor after : Cursor}
    {build : Build α} (on : after.On text)
    (readings : ∀ last value last', build last = .ok (value, last') →
      reading cursor last value after last') :
    Yields text reading cursor (some (build, after)) := by
  rintro _ _ ⟨⟩
  exact ⟨on, readings⟩

/-- Builds whose values are read one after the other. -/
def AllRead (reading : Reading α) (start : Cursor) (builds : List (Build α)) (cursor : Cursor) :
    Prop :=
  ∀ last values last', Build.all builds last = .ok (values, last') →
    Repeats reading start last values cursor last'

theorem AllRead.nil {reading : Reading α} {cursor : Cursor} :
    AllRead reading cursor [] cursor := by
  rintro last values last' succeeded
  obtain ⟨rfl, rfl⟩ := Build.pure_eq_ok.mp succeeded
  exact .nil

theorem all_append_eq_ok {builds : List (Build α)} {build : Build α} {last last' : Nat}
    {values : List α} (succeeded : Build.all (builds ++ [build]) last = .ok (values, last')) :
    ∃ before between value, Build.all builds last = .ok (before, between) ∧
      build between = .ok (value, last') ∧ values = before ++ [value] := by
  induction builds generalizing last values with
  | nil =>
    obtain ⟨value, between, built, rest⟩ := Build.bind_eq_ok.mp succeeded
    obtain ⟨none, between', ended, listed⟩ := Build.bind_eq_ok.mp rest
    obtain ⟨rfl, rfl⟩ := Build.pure_eq_ok.mp ended
    obtain ⟨rfl, rfl⟩ := Build.pure_eq_ok.mp listed
    exact ⟨[], last, value, rfl, built, rfl⟩
  | cons head tail inductionHypothesis =>
    obtain ⟨value, between, built, rest⟩ := Build.bind_eq_ok.mp succeeded
    obtain ⟨others, between', ended, listed⟩ := Build.bind_eq_ok.mp rest
    obtain ⟨rfl, rfl⟩ := Build.pure_eq_ok.mp listed
    obtain ⟨before, middle, final, builtBefore, builtFinal, rfl⟩ := inductionHypothesis ended
    refine ⟨value :: before, middle, final, ?_, builtFinal, rfl⟩
    exact Build.bind_eq_ok.mpr ⟨value, between, built,
      Build.bind_eq_ok.mpr ⟨before, middle, builtBefore, rfl⟩⟩

theorem AllRead.snoc {reading : Reading α} {start cursor after : Cursor}
    {builds : List (Build α)} {build : Build α} (before : AllRead reading start builds cursor)
    (readings : ∀ last value last', build last = .ok (value, last') →
      reading cursor last value after last') :
    AllRead reading start (builds ++ [build]) after := by
  intro last values last' succeeded
  obtain ⟨_, between, value, builtBefore, built, rfl⟩ := all_append_eq_ok succeeded
  exact (before _ _ _ builtBefore).snoc (readings _ _ _ built)

variable [DecidableEq Rule] [Hashable Rule] {inOrder : Memo Rule Val → Prop} {text : List Char}

theorem repeatStep_keeps {reading : Reading α} {step : Cursor → Run Rule Val (Outcome α)}
    (stepKeeps : ∀ cursor, cursor.On text →
      Keeps inOrder (step cursor) (Yields text reading cursor)) {start : Cursor} :
    ∀ budget found cursor, cursor.On text → AllRead reading start found.reverse cursor →
      Keeps inOrder (repeatStep step budget found cursor) (Yields text (Repeats reading) start) := by
  intro budget
  -- The builds found so far, the last one first, read all from the start up to the place.
  induction budget with
  | zero =>
    intro found cursor on read
    exact .pure (.some on read)
  | succ budget inductionHypothesis =>
    intro found cursor on read
    apply Keeps.bind (stepKeeps cursor on)
    intro outcome yields
    cases outcome with
    | none => exact .pure (.some on read)
    | some result =>
      obtain ⟨build, after⟩ := result
      obtain ⟨onAfter, readings⟩ := yields _ _ rfl
      have longer : AllRead reading start (build :: found).reverse after := by
        rw [List.reverse_cons]
        exact read.snoc readings
      by_cases advanced : cursor.offset < after.offset
      · simp only [advanced, if_true]
        exact inductionHypothesis _ _ onAfter longer
      · simp only [advanced, if_false]
        exact .pure (.some onAfter longer)

/-- The run of an expression finds readings of it, if the runs of the rules do. -/
theorem run_keeps {rules : (name : Rule) → Reading (Val name)}
    {call : (name : Rule) → Cursor → Run Rule Val (Outcome (Val name))}
    (calls : ∀ name cursor, cursor.On text →
      Keeps inOrder (call name cursor) (Yields text (rules name) cursor))
    (budget : Nat) (piece : Peg Rule Val α) :
    ∀ cursor, cursor.On text →
      Keeps inOrder (piece.run call budget cursor) (Yields text (piece.Reads rules) cursor) := by
  -- The memo is only handed on; what is new in it comes from the runs of the rules.
  induction piece with
  | pure value =>
    intro cursor on
    refine .pure (.some on ?_)
    intro last built last' succeeded
    obtain ⟨rfl, rfl⟩ := Build.pure_eq_ok.mp succeeded
    exact ⟨rfl, rfl, rfl⟩
  | token scan =>
    intro cursor on
    apply Keeps.pure
    cases scanned : scan cursor.rest with
    | none => exact .none
    | some found =>
      refine .some (on.advance found.2) ?_
      intro last built last' succeeded
      obtain ⟨rfl, rfl⟩ := Build.pure_eq_ok.mp succeeded
      exact ⟨found.2, scanned, rfl, rfl⟩
  | rule name => exact calls name
  | seqWith combine first second firstHypothesis secondHypothesis =>
    intro cursor on
    apply Keeps.bind (firstHypothesis cursor on)
    intro outcome yields
    cases outcome with
    | none => exact .pure .none
    | some result =>
      obtain ⟨buildFirst, middle⟩ := result
      obtain ⟨onMiddle, readings⟩ := yields _ _ rfl
      apply Keeps.bind (secondHypothesis middle onMiddle)
      intro outcome yields'
      cases outcome with
      | none => exact .pure .none
      | some result =>
        obtain ⟨buildSecond, after⟩ := result
        obtain ⟨onAfter, readings'⟩ := yields' _ _ rfl
        refine .pure (.some onAfter ?_)
        intro last built last' succeeded
        obtain ⟨value, between, builtFirst, rest⟩ := Build.bind_eq_ok.mp succeeded
        obtain ⟨value', between', builtSecond, combined⟩ := Build.bind_eq_ok.mp rest
        obtain ⟨rfl, rfl⟩ := Build.pure_eq_ok.mp combined
        exact ⟨value, middle, between, value', readings _ _ _ builtFirst,
          readings' _ _ _ builtSecond, rfl⟩
  | choice first second firstHypothesis secondHypothesis =>
    intro cursor on
    apply Keeps.bind (firstHypothesis cursor on)
    intro outcome yields
    cases outcome with
    | some found =>
      refine .pure fun build after same => ?_
      obtain ⟨onAfter, readings⟩ := yields build after same
      exact ⟨onAfter, fun last value last' succeeded => .inl (readings _ _ _ succeeded)⟩
    | none =>
      intro memo ordered
      obtain ⟨yields', kept⟩ := secondHypothesis cursor on memo ordered
      refine ⟨fun build after same => ?_, kept⟩
      obtain ⟨onAfter, readings⟩ := yields' build after same
      exact ⟨onAfter, fun last value last' succeeded => .inr (readings _ _ _ succeeded)⟩
  | optional piece inductionHypothesis =>
    intro cursor on
    apply Keeps.bind (inductionHypothesis cursor on)
    intro outcome yields
    cases outcome with
    | none =>
      refine .pure (.some on ?_)
      intro last built last' succeeded
      obtain ⟨rfl, rfl⟩ := Build.pure_eq_ok.mp succeeded
      exact .inr ⟨rfl, rfl, rfl⟩
    | some result =>
      obtain ⟨build, after⟩ := result
      obtain ⟨onAfter, readings⟩ := yields _ _ rfl
      refine .pure (.some onAfter ?_)
      intro last built last' succeeded
      obtain ⟨value, found, rfl⟩ := Build.map_eq_ok.mp succeeded
      exact .inl ⟨value, readings _ _ _ found, rfl⟩
  | many piece inductionHypothesis =>
    intro cursor on
    exact repeatStep_keeps inductionHypothesis budget [] cursor on .nil
  | notAhead piece inductionHypothesis =>
    intro cursor on
    apply Keeps.bind (inductionHypothesis cursor on)
    intro outcome _
    cases outcome with
    | some found => exact .pure .none
    | none =>
      refine .pure (.some on ?_)
      intro last built last' succeeded
      obtain ⟨rfl, rfl⟩ := Build.pure_eq_ok.mp succeeded
      exact ⟨rfl, rfl⟩
  | spanned piece inductionHypothesis | captured piece inductionHypothesis =>
    intro cursor on
    apply Keeps.bind (inductionHypothesis cursor on)
    intro outcome yields
    cases outcome with
    | none => exact .pure .none
    | some result =>
      obtain ⟨build, after⟩ := result
      obtain ⟨onAfter, readings⟩ := yields _ _ rfl
      refine .pure (.some onAfter ?_)
      intro last built last' succeeded
      obtain ⟨value, found, rfl⟩ := Build.map_eq_ok.mp succeeded
      exact ⟨value, readings _ _ _ found, rfl⟩
  | building next piece inductionHypothesis =>
    intro cursor on
    apply Keeps.bind (inductionHypothesis cursor on)
    intro outcome yields
    cases outcome with
    | none => exact .pure .none
    | some result =>
      obtain ⟨build, after⟩ := result
      obtain ⟨onAfter, readings⟩ := yields _ _ rfl
      refine .pure (.some onAfter ?_)
      intro last built last' succeeded
      obtain ⟨value, between, found, further⟩ := Build.bind_eq_ok.mp succeeded
      exact ⟨value, between, readings _ _ _ found, further⟩

/-- Rules at places are equal where they are told to be, as looking them up takes for granted. -/
instance lawfulPlaces : LawfulBEq (Rule × Nat) := inferInstance

variable (grammar text) in
/-- What is remembered of a rule at a place are readings of the rule. -/
def Remembers (memo : Memo Rule Val) : Prop :=
  ∀ name offset known, memo.get? (name, offset) = some known →
    Yields text (Readable grammar name) ⟨offset, text.drop offset⟩ known

theorem Remembers.insert {memo : Memo Rule Val} (remembers : Remembers grammar text memo)
    {name : Rule} {cursor : Cursor} (on : cursor.On text) {outcome : Outcome (Val name)}
    (yields : Yields text (Readable grammar name) cursor outcome) :
    Remembers grammar text (memo.insert (name, cursor.offset) outcome) := by
  intro name' offset known found
  rw [Std.DHashMap.get?_insert] at found
  split at found
  · rename_i same
    obtain ⟨rfl, rfl⟩ := Prod.mk.inj (eq_of_beq same)
    cases found
    rw [← on]
    exact yields
  · exact remembers name' offset known found

/-- The run of a rule takes over what is remembered, and else remembers what it comes to. -/
theorem runRule_succ (budget depth : Nat) (name : Rule) (cursor : Cursor) (memo : Memo Rule Val) :
    (runRule grammar budget (depth + 1) name cursor).run memo =
      match memo.get? (name, cursor.offset) with
      | some known => (known, memo)
      | none =>
        let ran := ((grammar name).run (runRule grammar budget depth) budget cursor).run memo
        (ran.1, ran.2.insert (name, cursor.offset) ran.1) := by
  rw [runRule]
  show StateT.run (match memo.get? (name, cursor.offset) with
    | some known => Pure.pure known
    | none => _) memo = _
  cases memo.get? (name, cursor.offset) <;> rfl

theorem runRule_keeps (budget : Nat) :
    ∀ depth name cursor, cursor.On text →
      Keeps (Remembers grammar text) (runRule grammar budget depth name cursor)
        (Yields text (Readable grammar name) cursor) := by
  intro depth
  induction depth with
  | zero =>
    -- Without any depth nothing is matched, and nothing needs a reading.
    intro name cursor _
    exact .pure .none
  | succ depth inductionHypothesis =>
    intro name cursor on memo remembers
    rw [runRule_succ]
    cases known : memo.get? (name, cursor.offset) with
    | some outcome =>
      refine ⟨?_, remembers⟩
      -- What is remembered was found at the same offset of the same text.
      have yields := remembers name cursor.offset outcome known
      rwa [← on] at yields
    | none =>
      obtain ⟨yields, kept⟩ := run_keeps inductionHypothesis budget (grammar name) cursor on memo
        remembers
      have read : Yields text (Readable grammar name) cursor
          (((grammar name).run (runRule grammar budget depth) budget cursor).run memo).1 := by
        intro build after same
        obtain ⟨onAfter, readings⟩ := yields build after same
        exact ⟨onAfter, fun last value last' built =>
          readable_closed grammar name (readings last value last' built)⟩
      exact ⟨read, kept.insert on read⟩

/-- The match of a rule at the start of a text finds readings of the rule. -/
theorem match?_readable {rules : Nat} {name : Rule} :
    Yields text (Readable grammar name) ⟨0, text⟩ (match? grammar rules name text) := by
  have empty : Remembers grammar text ∅ := by
    intro name offset known found
    rw [Std.DHashMap.get?_empty] at found
    cases found
  exact (runRule_keeps text.length _ name ⟨0, text⟩ rfl ∅ empty).1

end Peg
end DrainLint
