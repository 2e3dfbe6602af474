import DrainLint.Parse
import DrainLint.Proofs.Peg.Readings

/-! # Runs that take notes

A run looks up what it remembers in a hash map, and hashes do not reduce in proofs.  The same run
over a list of notes does, and comes to the same.

- `Notes`: what has been found out about rules at places, the last first;
- `runNoted`, `ruleNoted`: the runs over notes;
- `Simulates`: a run and one over notes that come to the same from the same knowledge;
- `match?_eq_noted`: the match of a rule may be computed over notes;
- `SourceFile.parse_eq_ok_iff`: and so may the crate of a file.
-/

namespace DrainLint.Peg

open Hir (Build)

variable {Rule : Type} {Val : Rule → Type} [DecidableEq Rule]

/-! ## Notes -/

/-- What has been found out about rules at places, the last first. -/
abbrev Notes (Rule : Type) (Val : Rule → Type) := List ((key : Rule × Nat) × Outcome (Val key.1))

/-- What came of a rule at a place. -/
def Notes.get? (name : Rule) (offset : Nat) : Notes Rule Val → Option (Outcome (Val name))
  | [] => none
  | ⟨(noted, place), outcome⟩ :: rest =>
    if place = offset then
      if same : noted = name then some (same ▸ outcome) else get? name offset rest
    else get? name offset rest

/-- A run that takes notes. -/
abbrev NotedRun (Rule : Type) (Val : Rule → Type) := StateM (Notes Rule Val)

/-- Repeats a step while it matches something. -/
def repeatNoted {α : Type} (step : Cursor → NotedRun Rule Val (Outcome α)) :
    Nat → List (Build α) → Cursor → NotedRun Rule Val (Outcome (List α))
  | 0, found, cursor => return some (Build.all found.reverse, cursor)
  | budget + 1, found, cursor => do
    match ← step cursor with
    | none => return some (Build.all found.reverse, cursor)
    | some (build, after) =>
      if cursor.offset < after.offset then repeatNoted step budget (build :: found) after
      else return some (Build.all (build :: found).reverse, after)

/-- The run of an expression over notes, given how rules are run. -/
def runNoted (call : (name : Rule) → Cursor → NotedRun Rule Val (Outcome (Val name)))
    (budget : Nat) : {α : Type} → Peg Rule Val α → Cursor → NotedRun Rule Val (Outcome α)
  | _, .pure value, cursor => return some (Pure.pure value, cursor)
  | _, .token scan, cursor =>
    return (scan cursor.rest).map fun (value, count) => (Pure.pure value, cursor.advance count)
  | _, .rule name, cursor => call name cursor
  | _, .seqWith combine first second, cursor => do
    match ← runNoted call budget first cursor with
    | none => return none
    | some (buildFirst, middle) =>
      match ← runNoted call budget second middle with
      | none => return none
      | some (buildSecond, after) =>
        return some ((do
          let a ← buildFirst
          let b ← buildSecond
          return combine a b), after)
  | _, .choice first second, cursor => do
    match ← runNoted call budget first cursor with
    | some found => return some found
    | none => runNoted call budget second cursor
  | _, .optional piece, cursor => do
    match ← runNoted call budget piece cursor with
    | some (build, after) => return some (some <$> build, after)
    | none => return some (Pure.pure none, cursor)
  | _, .many piece, cursor => repeatNoted (runNoted call budget piece) budget [] cursor
  | _, .notAhead piece, cursor => do
    match ← runNoted call budget piece cursor with
    | some _ => return none
    | none => return some (Pure.pure (), cursor)
  | _, .spanned piece, cursor => do
    match ← runNoted call budget piece cursor with
    | none => return none
    | some (build, after) =>
      return some ((fun value => (Span.between cursor.offset after.offset, value)) <$> build, after)
  | _, .captured piece, cursor => do
    match ← runNoted call budget piece cursor with
    | none => return none
    | some (build, after) =>
      return some
        ((fun value => (cursor.rest.take (after.offset - cursor.offset), value)) <$> build, after)
  | _, .building next piece, cursor => do
    match ← runNoted call budget piece cursor with
    | none => return none
    | some (build, after) => return some (build >>= next, after)

/-- The run of a rule over notes. -/
def ruleNoted (grammar : (name : Rule) → Peg Rule Val (Val name)) (budget : Nat) :
    Nat → (name : Rule) → Cursor → NotedRun Rule Val (Outcome (Val name))
  | 0, _, _ => return none
  | depth + 1, name, cursor => do
    match (← get).get? name cursor.offset with
    | some known => return known
    | none =>
      let outcome ← runNoted (ruleNoted grammar budget depth) budget (grammar name) cursor
      modify fun notes => ⟨(name, cursor.offset), outcome⟩ :: notes
      return outcome

/-- The match of a rule at the start of a text, over notes. -/
def matchNoted? (grammar : (name : Rule) → Peg Rule Val (Val name)) (rules : Nat) (name : Rule)
    (text : List Char) : Outcome (Val name) :=
  let size := text.length
  (ruleNoted grammar size (rules * (size + 1)) name ⟨0, text⟩ |>.run []).1

theorem ruleNoted_succ (grammar : (name : Rule) → Peg Rule Val (Val name)) (budget depth : Nat)
    (name : Rule) (cursor : Cursor) (notes : Notes Rule Val) :
    (ruleNoted grammar budget (depth + 1) name cursor).run notes =
      match notes.get? name cursor.offset with
      | some known => (known, notes)
      | none =>
        let ran := (runNoted (ruleNoted grammar budget depth) budget (grammar name) cursor).run notes
        (ran.1, ⟨(name, cursor.offset), ran.1⟩ :: ran.2) := by
  rw [ruleNoted]
  show StateT.run (match notes.get? name cursor.offset with
    | some known => Pure.pure known
    | none => _) notes = _
  cases notes.get? name cursor.offset <;> rfl

/-! ## The same outcomes -/

variable [Hashable Rule]

/-- A memo and notes that know the same. -/
def SameKnowledge (memo : Memo Rule Val) (notes : Notes Rule Val) : Prop :=
  ∀ name offset, memo.get? (name, offset) = notes.get? name offset

theorem SameKnowledge.insert {memo : Memo Rule Val} {notes : Notes Rule Val}
    (same : SameKnowledge memo notes) (name : Rule) (offset : Nat) (outcome : Outcome (Val name)) :
    SameKnowledge (memo.insert (name, offset) outcome) (⟨(name, offset), outcome⟩ :: notes) := by
  intro name' offset'
  rw [Std.DHashMap.get?_insert, Notes.get?]
  by_cases atOffset : offset = offset'
  · by_cases ofName : name = name'
    · subst atOffset ofName
      simp
    · rw [dif_neg (by simp [ofName]), if_pos atOffset, dif_neg ofName]
      exact same name' offset'
  · rw [dif_neg (by simp [atOffset]), if_neg atOffset]
    exact same name' offset'

/-- From the same knowledge, two runs come to the same and know the same. -/
def Simulates {β : Type} (noted : NotedRun Rule Val β) (run : Run Rule Val β) : Prop :=
  ∀ memo notes, SameKnowledge memo notes →
    (run.run memo).1 = (noted.run notes).1 ∧ SameKnowledge (run.run memo).2 (noted.run notes).2

theorem Simulates.pure {β : Type} (value : β) :
    Simulates (Pure.pure value : NotedRun Rule Val β) (Pure.pure value) :=
  fun _ _ same => ⟨rfl, same⟩

theorem Simulates.bind {β γ : Type} {noted : NotedRun Rule Val β} {run : Run Rule Val β}
    {notedNext : β → NotedRun Rule Val γ} {next : β → Run Rule Val γ}
    (first : Simulates noted run) (second : ∀ value, Simulates (notedNext value) (next value)) :
    Simulates (noted >>= notedNext) (run >>= next) := by
  intro memo notes same
  obtain ⟨outcome, kept⟩ := first memo notes same
  have continued := second (run.run memo).1 _ _ kept
  show ((next (run.run memo).1).run (run.run memo).2).1 =
      ((notedNext (noted.run notes).1).run (noted.run notes).2).1 ∧
    SameKnowledge ((next (run.run memo).1).run (run.run memo).2).2
      ((notedNext (noted.run notes).1).run (noted.run notes).2).2
  rw [← outcome]
  exact continued

theorem repeatNoted_simulates {α : Type} {noted : Cursor → NotedRun Rule Val (Outcome α)}
    {step : Cursor → Run Rule Val (Outcome α)}
    (simulates : ∀ cursor, Simulates (noted cursor) (step cursor)) :
    ∀ budget found cursor,
      Simulates (repeatNoted noted budget found cursor) (repeatStep step budget found cursor) := by
  intro budget
  induction budget with
  | zero => exact fun found cursor => .pure _
  | succ budget inductionHypothesis =>
    intro found cursor
    apply Simulates.bind (simulates cursor)
    intro outcome
    cases outcome with
    | none => exact .pure _
    | some result =>
      obtain ⟨build, after⟩ := result
      by_cases advanced : cursor.offset < after.offset
      · simp only [advanced, if_true]
        exact inductionHypothesis (build :: found) after
      · simp only [advanced, if_false]
        exact .pure _

/-- The run of an expression over notes comes to the same, if the runs of the rules do. -/
theorem runNoted_simulates {α : Type}
    {noted : (name : Rule) → Cursor → NotedRun Rule Val (Outcome (Val name))}
    {call : (name : Rule) → Cursor → Run Rule Val (Outcome (Val name))}
    (simulates : ∀ name cursor, Simulates (noted name cursor) (call name cursor)) (budget : Nat)
    (piece : Peg Rule Val α) :
    ∀ cursor, Simulates (runNoted noted budget piece cursor) (piece.run call budget cursor) := by
  -- The two runs take the same steps and differ only in what the rules remember.
  induction piece with
  | pure | token => exact fun cursor => .pure _
  | rule name => exact simulates name
  | seqWith combine first second firstHypothesis secondHypothesis =>
    intro cursor
    apply Simulates.bind (firstHypothesis cursor)
    intro outcome
    cases outcome with
    | none => exact .pure _
    | some result =>
      apply Simulates.bind (secondHypothesis result.2)
      intro outcome
      cases outcome <;> exact .pure _
  | choice first second firstHypothesis secondHypothesis =>
    intro cursor
    apply Simulates.bind (firstHypothesis cursor)
    intro outcome
    cases outcome with
    | none => exact secondHypothesis cursor
    | some found => exact .pure _
  | many piece inductionHypothesis =>
    exact fun cursor => repeatNoted_simulates inductionHypothesis budget [] cursor
  | optional piece inductionHypothesis | notAhead piece inductionHypothesis
  | spanned piece inductionHypothesis | captured piece inductionHypothesis
  | building next piece inductionHypothesis =>
    intro cursor
    apply Simulates.bind (inductionHypothesis cursor)
    intro outcome
    cases outcome <;> exact .pure _

theorem ruleNoted_simulates (grammar : (name : Rule) → Peg Rule Val (Val name)) (budget : Nat) :
    ∀ depth name cursor,
      Simulates (ruleNoted grammar budget depth name cursor)
        (runRule grammar budget depth name cursor) := by
  intro depth
  induction depth with
  | zero => exact fun name cursor => .pure _
  | succ depth inductionHypothesis =>
    -- Both look the rule up first, and they know the same about it.
    intro name cursor memo notes same
    rw [runRule_succ, ruleNoted_succ, same name cursor.offset]
    cases notes.get? name cursor.offset with
    | some known => exact ⟨rfl, same⟩
    | none =>
      obtain ⟨outcome, kept⟩ :=
        runNoted_simulates inductionHypothesis budget (grammar name) cursor memo notes same
      refine ⟨outcome, ?_⟩
      simp only [outcome]
      exact kept.insert name cursor.offset _

/-- The match of a rule at the start of a text may be computed over notes. -/
theorem match?_eq_noted (grammar : (name : Rule) → Peg Rule Val (Val name)) (rules : Nat)
    (name : Rule) (text : List Char) :
    match? grammar rules name text = matchNoted? grammar rules name text := by
  have empty : SameKnowledge (∅ : Memo Rule Val) [] := fun name offset => Std.DHashMap.get?_empty
  exact (ruleNoted_simulates grammar text.length _ name ⟨0, text⟩ ∅ [] empty).1

end DrainLint.Peg

namespace DrainLint.SourceFile

open Hir Peg

/-- The crate of a file, over notes. -/
def crateNoted? (source : SourceFile) : Option Crate :=
  match matchNoted? Grammar.rules Grammar.ruleCount .crate source.text with
  | none => none
  | some (build, after) =>
    if after.rest.isEmpty then (build 0).toOption.map Prod.fst else none

theorem parse_eq_ok_iff {source : SourceFile} {crate : Crate} :
    source.parse = .ok crate ↔ source.crateNoted? = some crate := by
  have matched := match?_eq_noted Grammar.rules Grammar.ruleCount .crate source.text
  unfold parse crateNoted? Grammar.matchCrate?
  rw [matched]
  cases matchNoted? Grammar.rules Grammar.ruleCount .crate source.text with
  | none => simp
  | some result =>
    obtain ⟨build, after⟩ := result
    by_cases ended : after.rest.isEmpty = true
    · simp only [ended, if_true]
      cases build 0 with
      | error fault => constructor <;> rintro ⟨⟩
      | ok value => constructor <;> rintro ⟨⟩ <;> rfl
    · simp [ended]

/-- A file whose crate over notes passes a check parses to a crate that does. -/
theorem parse_of_noted {source : SourceFile} {check : Crate → Bool}
    (noted : source.crateNoted?.any check = true) :
    ∃ crate, source.parse = .ok crate ∧ check crate = true := by
  cases found : source.crateNoted? with
  | none =>
    rw [found] at noted
    cases noted
  | some crate =>
    rw [found] at noted
    exact ⟨crate, parse_eq_ok_iff.mpr found, noted⟩

end DrainLint.SourceFile
