import DrainLint.Grammar.Table
import DrainLint.Proofs.Grammar.Scanners
import DrainLint.Proofs.Peg.Readings

/-! # Where constructs end

No expression, pattern or type ends in a blank or in a comma.  That is seen from the form of the grammar
and from the last characters of its words.

- `FinalAt`: a word at the front of a text whose last character is neither blank nor a comma;
- `Finishing`: a scanner of such words;
- `Finishes`: a place that is reached by reading something of that kind;
- `Final`: what is seen from the form of an expression, given what is known of the rules;
- `Final.reads`: readings of such an expression end so;
- `rules_final`, `readable_finishes`, `call_concludes`: so do those of the rules.
-/

namespace DrainLint.Grammar

open Hir Peg Text

/-! ## Words -/

/-- A character with which a construct may end. -/
def isFinal (c : Char) : Bool := !isSpace c && c != ','

/-- A word at the front of a text, by its length, that ends in a final character. -/
def FinalAt (cs : List Char) (count : Nat) : Prop :=
  ∃ place c, count = place + 1 ∧ cs[place]? = some c ∧ isFinal c = true

theorem FinalAt.drop {cs : List Char} {front count : Nat} (final : FinalAt (cs.drop front) count) :
    FinalAt cs (front + count) := by
  obtain ⟨place, c, rfl, found, isFinal⟩ := final
  rw [List.getElem?_drop] at found
  exact ⟨front + place, c, rfl, found, isFinal⟩

theorem FinalAt.cons {c : Char} {cs : List Char} {count : Nat} (final : FinalAt cs count) :
    FinalAt (c :: cs) (count + 1) := by
  rw [Nat.add_comm]
  exact FinalAt.drop final

/-- A word and another after it, which may be empty. -/
theorem FinalAt.append {cs : List Char} {front count : Nat} (first : FinalAt cs front)
    (second : count = 0 ∨ FinalAt (cs.drop front) count) : FinalAt cs (front + count) := by
  rcases second with rfl | final
  · exact first
  · exact final.drop

theorem FinalAt.of_isPrefixOf {w cs : List Char} (leading : w.isPrefixOf cs = true)
    (final : w.getLast?.any isFinal = true) : FinalAt cs w.length := by
  obtain ⟨rest, rfl⟩ := List.isPrefixOf_iff_prefix.mp leading
  obtain ⟨c, isLast, isFinal⟩ := (Option.any_eq_true ..).mp final
  rw [List.getLast?_eq_getElem?] at isLast
  have inside := (List.getElem?_eq_some_iff.mp isLast).1
  refine ⟨w.length - 1, c, by omega, ?_, isFinal⟩
  rw [List.getElem?_append_left inside, isLast]

/-- What is counted passes the test by which it is. -/
theorem getElem?_of_lt_lengthWhile {p : Char → Bool} {cs : List Char} {place : Nat}
    (inside : place < lengthWhile p cs) : ∃ c, cs[place]? = some c ∧ p c = true := by
  have counted : ∀ cs count, lengthWhile.go p count cs = count + lengthWhile.go p 0 cs := by
    intro cs
    induction cs with
    | nil => intro count; rfl
    | cons c rest inductionHypothesis =>
      intro count
      simp only [lengthWhile.go]
      split
      · rw [inductionHypothesis (count + 1), inductionHypothesis (0 + 1)]
        omega
      · rfl
  induction cs generalizing place with
  | nil => cases inside
  | cons c rest inductionHypothesis =>
    rw [lengthWhile, lengthWhile.go] at inside
    split at inside
    · rename_i passes
      cases place with
      | zero => exact ⟨c, rfl, passes⟩
      | succ place =>
        rw [counted] at inside
        exact inductionHypothesis (by rw [lengthWhile]; omega)
    · cases inside

theorem FinalAt.of_lengthWhile {p : Char → Bool} {cs : List Char} {count : Nat}
    (among : ∀ c, p c = true → isFinal c = true) (positive : 0 < count)
    (within : count ≤ lengthWhile p cs) : FinalAt cs count := by
  obtain ⟨place, rfl⟩ := Nat.exists_eq_add_of_lt positive
  rw [Nat.zero_add] at within ⊢
  obtain ⟨c, found, passes⟩ := getElem?_of_lt_lengthWhile (Nat.lt_of_succ_le within)
  exact ⟨place, c, rfl, found, among c passes⟩

/-! ## Characters -/

/-- The digits and the letters, and what is between them in the order of characters. -/
theorem isFinal_of_between {c : Char} (low : 0x30 ≤ c.toNat) (high : c.toNat ≤ 0x7A) :
    isFinal c = true := by
  have notComma : (c == ',') = false := by
    rw [beq_eq_false_iff_ne]
    rintro rfl
    exact absurd low (by decide)
  have notSpace : isSpace c = false := by
    simp only [isSpace, isBlank, Bool.or_eq_false_iff, Bool.and_eq_false_iff,
      decide_eq_false_iff_not, beq_eq_false_iff_ne]
    omega
  rw [isFinal, notSpace, bne, notComma]
  rfl

theorem isFinal_of_isNameRest {c : Char} (named : isNameRest c = true) : isFinal c = true := by
  have upper : c.isUpper = decide (65 ≤ c.val ∧ c.val ≤ 90) := rfl
  have lower : c.isLower = (decide (97 ≤ c.val) && decide (c.val ≤ 122)) := rfl
  have alpha : c.isAlpha = (c.isUpper || c.isLower) := rfl
  simp only [isNameRest, Char.isAlphanum, Char.isDigit, alpha, upper, lower, Bool.or_eq_true,
    Bool.and_eq_true, decide_eq_true_eq, beq_iff_eq, UInt32.le_iff_toNat_le, ge_iff_le] at named
  change (((65 ≤ c.toNat ∧ c.toNat ≤ 90) ∨ (97 ≤ c.toNat ∧ c.toNat ≤ 122)) ∨
    (48 ≤ c.toNat ∧ c.toNat ≤ 57)) ∨ c = '_' at named
  rcases named with known | rfl
  · exact isFinal_of_between (by omega) (by omega)
  · decide

theorem isFinal_of_isAsciiDigit {c : Char} (digit : isAsciiDigit c = true) : isFinal c = true := by
  simp only [isAsciiDigit, Bool.and_eq_true, decide_eq_true_eq, Char.le_def,
    UInt32.le_iff_toNat_le] at digit
  change 48 ≤ c.toNat ∧ c.toNat ≤ 57 at digit
  exact isFinal_of_between (by omega) (by omega)

theorem isFinal_of_isAsciiHexDigit {c : Char} (digit : isAsciiHexDigit c = true) :
    isFinal c = true := by
  simp only [isAsciiHexDigit, isAsciiDigit, Bool.or_eq_true, Bool.and_eq_true, decide_eq_true_eq,
    Char.le_def, UInt32.le_iff_toNat_le] at digit
  change ((48 ≤ c.toNat ∧ c.toNat ≤ 57) ∨ (97 ≤ c.toNat ∧ c.toNat ≤ 102)) ∨
    (65 ≤ c.toNat ∧ c.toNat ≤ 70) at digit
  exact isFinal_of_between (by omega) (by omega)

/-- The underscores between digits. -/
theorem isFinal_or_underscore {p : Char → Bool} (among : ∀ c, p c = true → isFinal c = true) {c : Char}
    (either : (p c || c == '_') = true) : isFinal c = true := by
  rw [Bool.or_eq_true, beq_iff_eq] at either
  rcases either with passes | rfl
  · exact among c passes
  · decide

/-! ## Scanners -/

/-- A scanner whose words end in a final character. -/
class Finishing {α : Type} (scan : Scanner α) : Prop where
  final : ∀ {cs value count}, scan cs = some (value, count) → FinalAt cs count

theorem Finishing.ofLength {word : List Char → Option Nat}
    (final : ∀ {cs count}, word cs = some count → FinalAt cs count) :
    Finishing (Scanner.ofLength word) where
  final := by
    intro cs value count scanned
    simp only [Scanner.ofLength, Option.map_eq_some_iff, Prod.mk.injEq] at scanned
    obtain ⟨length, found, _, rfl⟩ := scanned
    exact final found

section

variable {w : List Char} (final : w.getLast?.any isFinal = true)

include final

theorem word_finishing : Finishing (word w) where
  final := by
    intro cs value count scanned
    unfold word at scanned
    split at scanned
    · rename_i leading
      cases scanned
      exact .of_isPrefixOf leading final
    · cases scanned

theorem wholeWord_finishing : Finishing (wholeWord w) where
  final := by
    intro cs value count scanned
    unfold wholeWord at scanned
    split at scanned
    · rename_i leading
      cases scanned
      exact .of_isPrefixOf (Bool.and_eq_true_iff.mp leading).1 final
    · cases scanned

theorem wordNotBefore_finishing (p : Char → Bool) : Finishing (wordNotBefore w p) where
  final := by
    intro cs value count scanned
    unfold wordNotBefore at scanned
    split at scanned
    · rename_i leading
      cases scanned
      exact .of_isPrefixOf (Bool.and_eq_true_iff.mp leading).1 final
    · cases scanned

end

instance identifier_finishing : Finishing identifier where
  final := by
    intro cs value count scanned
    have positive := Wordful.length_pos scanned
    unfold identifier at scanned
    split at scanned
    · cases scanned
      exact .of_lengthWhile (fun _ => isFinal_of_isNameRest) positive (Nat.le_refl _)
    · cases scanned

instance lifetime_finishing : Finishing lifetime where
  final := by
    intro cs value count scanned
    unfold lifetime at scanned
    split at scanned
    · rename_i rest
      split at scanned
      · -- Before a quote one character less is kept, but a name is all that is kept either way.
        have within : (if startsWith (· == '\'') (rest.drop (lengthWhile isNameRest rest)) then
            lengthWhile isNameRest rest - 1 else lengthWhile isNameRest rest) ≤
              lengthWhile isNameRest rest := by
          split <;> omega
        simp only at scanned
        generalize (if startsWith (· == '\'') (rest.drop (lengthWhile isNameRest rest)) then
          lengthWhile isNameRest rest - 1 else lengthWhile isNameRest rest) = kept at scanned within
        split at scanned
        · cases scanned
        · cases scanned
          exact .cons (.of_lengthWhile (fun _ => isFinal_of_isNameRest) (by omega) within)
      · cases scanned
    · cases scanned

instance position_finishing : Finishing position where
  final := by
    intro cs value count scanned
    unfold position at scanned
    simp only at scanned
    split at scanned
    · cases scanned
    · cases scanned
      exact .of_lengthWhile (fun _ => isFinal_of_isAsciiDigit) (by omega) (Nat.le_refl _)

instance boolLit_finishing : Finishing boolLit where
  final := by
    intro cs value count scanned
    unfold boolLit at scanned
    split at scanned
    · next found =>
      cases scanned
      exact (wholeWord_finishing (by decide)).final found
    · obtain ⟨_, found, same⟩ := Option.map_eq_some_iff.mp scanned
      cases same
      exact (wholeWord_finishing (by decide)).final found

instance rangeOp_finishing : Finishing rangeOp where
  final := by
    intro cs value count scanned
    unfold rangeOp at scanned
    split at scanned
    · cases scanned
      exact ⟨2, '=', rfl, rfl, by decide⟩
    · cases scanned
      exact ⟨1, '.', rfl, rfl, by decide⟩
    · cases scanned

/-! ## Numbers and texts -/

variable {cs : List Char} {count : Nat}

theorem decimalLength_final (found : decimalLength cs = some count) : FinalAt cs count := by
  have positive := decimalLength_pos found
  unfold decimalLength at found
  split at found
  · cases found
    refine .of_lengthWhile (fun c among => ?_) positive (Nat.le_refl _)
    exact isFinal_or_underscore (fun _ => isFinal_of_isAsciiDigit) among
  · cases found

theorem exponentLength_final (found : exponentLength cs = some count) : FinalAt cs count := by
  -- The sign may be missing, and the digits are what comes last.
  unfold exponentLength at found
  split at found
  · rename_i c rest
    split at found
    · generalize (if startsWith (fun c => c == '+' || c == '-') rest then 1 else 0) = sign at found
      simp only at found
      split at found
      · cases found
      · cases found
        have digits : FinalAt (rest.drop sign) (lengthWhile isDigitOrUnderscore (rest.drop sign)) :=
          .of_lengthWhile (fun _ => isFinal_or_underscore fun _ => isFinal_of_isAsciiDigit)
            (by omega) (Nat.le_refl _)
        have counted := digits.drop.cons (c := c)
        rwa [Nat.add_comm, ← Nat.add_assoc] at counted
    · cases found
  · cases found

theorem floatSuffixLength_final (cs : List Char) :
    floatSuffixLength cs = 0 ∨ FinalAt cs (floatSuffixLength cs) := by
  unfold floatSuffixLength
  split
  · rename_i either
    rcases Bool.or_eq_true_iff.mp either with leading | leading
    · exact .inr (.of_isPrefixOf leading (by decide))
    · exact .inr (.of_isPrefixOf leading (by decide))
  · exact .inl rfl

theorem floatLit_final (found : floatLit cs = some count) : FinalAt cs count := by
  unfold floatLit at found
  obtain ⟨whole, isWhole, found⟩ := Option.bind_eq_some_iff.mp found
  have digits := decimalLength_final isWhole
  -- What comes after the digits is there and final, or is not there.
  have suffixed : ∀ {front : Nat}, FinalAt cs (whole + front) →
      FinalAt cs (whole + front + floatSuffixLength ((cs.drop whole).drop front)) := by
    intro front final
    refine final.append ?_
    rw [List.drop_drop]
    exact floatSuffixLength_final _
  simp only at found
  split at found
  · rename_i fraction isFraction
    cases found
    have fractionFinal : FinalAt (cs.drop whole) fraction := by
      split at isFraction
      · rename_i rest point
        obtain ⟨length, isDigits, rfl⟩ := Option.map_eq_some_iff.mp isFraction
        rw [point]
        exact (decimalLength_final isDigits).cons
      · cases isFraction
    rw [Nat.add_assoc whole]
    refine suffixed ?_
    rw [← Nat.add_assoc]
    refine fractionFinal.drop.append ?_
    rw [← List.drop_drop]
    cases isExponent : exponentLength ((cs.drop whole).drop fraction) with
    | none => exact .inl rfl
    | some exponent => exact .inr (exponentLength_final isExponent)
  · split at found
    · rename_i exponent isExponent
      cases found
      exact suffixed (exponentLength_final isExponent).drop
    · split at found
      · cases found
      · rename_i typed
        cases found
        exact ((floatSuffixLength_final _).resolve_left typed).drop

theorem basedLength_final {mark : List Char} {isDigit : Char → Bool}
    (among : ∀ c, isDigit c = true → isFinal c = true)
    (found : basedLength mark isDigit cs = some count) : FinalAt cs count := by
  unfold basedLength at found
  split at found
  · simp only at found
    split at found
    · cases found
    · cases found
      exact FinalAt.drop (.of_lengthWhile (fun _ => isFinal_or_underscore among) (by omega)
        (Nat.le_refl _))
  · cases found

theorem intDigits_final (found : intDigits cs = some count) : FinalAt cs count := by
  simp only [intDigits, Option.orElse_eq_orElse, Option.orElse_eq_or, Option.or_eq_some_iff] at found
  rcases found with hexadecimal | ⟨_, octal | ⟨_, binary | ⟨_, decimal⟩⟩⟩
  · exact basedLength_final (fun _ => isFinal_of_isAsciiHexDigit) hexadecimal
  · refine basedLength_final (fun c digit => ?_) octal
    simp only [Bool.and_eq_true, decide_eq_true_eq, Char.le_def, UInt32.le_iff_toNat_le] at digit
    change 48 ≤ c.toNat ∧ c.toNat ≤ 55 at digit
    exact isFinal_of_between (by omega) (by omega)
  · refine basedLength_final (fun c digit => ?_) binary
    rw [Bool.or_eq_true, beq_iff_eq, beq_iff_eq] at digit
    rcases digit with rfl | rfl <;> decide
  · exact decimalLength_final decimal

theorem intSuffixLength_final (cs : List Char) :
    intSuffixLength cs = 0 ∨ FinalAt cs (intSuffixLength cs) := by
  unfold intSuffixLength
  split
  · rename_i c rest
    split
    · split
      · rename_i width found
        have leading := List.find?_some found
        have ends : ∀ width ∈ intWidths, width.getLast?.any isFinal = true := by decide
        exact .inr (FinalAt.of_isPrefixOf leading (ends width (List.mem_of_find?_eq_some found))).cons
      · exact .inl rfl
    · exact .inl rfl
  · exact .inl rfl

theorem intLit_final (found : intLit cs = some count) : FinalAt cs count := by
  obtain ⟨digits, isDigits, rfl⟩ := Option.map_eq_some_iff.mp found
  exact (intDigits_final isDigits).append (intSuffixLength_final _)

theorem quotedRest_final (found : quotedRest cs = some count) : FinalAt cs count := by
  fun_induction quotedRest cs generalizing count with
  | case1 => cases found
  | case2 =>
    cases found
    exact ⟨0, '"', rfl, rfl, by decide⟩
  | case3 c rest inductionHypothesis =>
    obtain ⟨length, inner, rfl⟩ := Option.map_eq_some_iff.mp found
    exact (inductionHypothesis inner).cons.cons
  | case4 c rest _ _ inductionHypothesis =>
    obtain ⟨length, inner, rfl⟩ := Option.map_eq_some_iff.mp found
    exact (inductionHypothesis inner).cons

theorem rawRest_final {hashes : Nat} (found : rawRest hashes cs = some count) :
    FinalAt cs count := by
  induction cs generalizing count with
  | nil => cases found
  | cons c rest inductionHypothesis =>
    rw [rawRest] at found
    split at found
    · rename_i closing
      cases found
      obtain ⟨rfl, marks⟩ := closing
      rw [Nat.add_comm]
      cases hashes with
      | zero => exact ⟨0, '"', rfl, rfl, by decide⟩
      | succ hashes =>
        -- The last character is the last of the hash signs.
        refine FinalAt.cons ⟨hashes, '#', rfl, ?_, by decide⟩
        have taken : (rest.take (hashes + 1))[hashes]? = some '#' := by
          rw [marks, List.getElem?_replicate, if_pos (Nat.lt_succ_self _)]
        rwa [List.getElem?_take_of_lt (Nat.lt_succ_self _)] at taken
    · obtain ⟨length, inner, rfl⟩ := Option.map_eq_some_iff.mp found
      exact (inductionHypothesis inner).cons

theorem rawStringLit_final (found : rawStringLit cs = some count) : FinalAt cs count := by
  unfold rawStringLit at found
  split at found
  · rename_i rest
    simp only at found
    split at found
    · rename_i body opened
      obtain ⟨length, inner, rfl⟩ := Option.map_eq_some_iff.mp found
      have opening : FinalAt (rest.drop (lengthWhile (· == '#') rest)) (length + 1) := by
        rw [opened]
        exact (rawRest_final inner).cons
      have counted := opening.drop.cons (c := 'r')
      rwa [show lengthWhile (· == '#') rest + (length + 1) + 1 =
        2 + lengthWhile (· == '#') rest + length by omega] at counted
    · cases found
  · cases found

theorem stringLit_final (found : stringLit cs = some count) : FinalAt cs count := by
  unfold stringLit at found
  generalize (if startsWith (· == 'b') cs then 1 else 0) = mark at found
  obtain ⟨length, inner, rfl⟩ := Option.map_eq_some_iff.mp found
  apply FinalAt.drop
  simp only [Option.orElse_eq_orElse, Option.orElse_eq_or, Option.or_eq_some_iff] at inner
  rcases inner with raw | ⟨_, plain⟩
  · exact rawStringLit_final raw
  · split at plain
    · rename_i body opened
      obtain ⟨length, quoted, rfl⟩ := Option.map_eq_some_iff.mp plain
      rw [opened, Nat.add_comm]
      exact (quotedRest_final quoted).cons
    · cases plain

theorem charLit_final (found : charLit cs = some count) : FinalAt cs count := by
  unfold charLit at found
  generalize (if startsWith (· == 'b') cs then 1 else 0) = mark at found
  simp only at found
  split at found
  · rename_i body opened
    obtain ⟨length, isBody, found⟩ := Option.bind_eq_some_iff.mp found
    split at found
    · rename_i closed
      cases found
      -- The quote after the one character is the last.
      have quote : FinalAt (body.drop length) 1 := by
        cases rest : body.drop length with
        | nil =>
          rw [rest] at closed
          cases closed
        | cons c others =>
          rw [rest, startsWith, beq_iff_eq] at closed
          exact ⟨0, c, rfl, rfl, by rw [closed]; decide⟩
      have opening : FinalAt (cs.drop mark) (length + 1 + 1) := by
        rw [opened]
        exact quote.drop.cons
      have counted := opening.drop
      rwa [show mark + (length + 1 + 1) = mark + 1 + length + 1 by omega] at counted
    · cases found
  · cases found

/-! ## Expressions -/

/-- A place that is reached by reading something that ends in a final character. -/
def Finishes (cursor after : Cursor) : Prop :=
  ∃ count, FinalAt cursor.rest count ∧ after = cursor.advance count

theorem Finishes.of_reaches {cursor middle after : Cursor} (reaches : cursor.Reaches middle)
    (finishes : Finishes middle after) : Finishes cursor after := by
  obtain ⟨front, rfl⟩ := reaches
  obtain ⟨count, final, rfl⟩ := finishes
  exact ⟨front + count, final.drop, by simp [Cursor.advance, Nat.add_assoc]⟩

/-- What is seen from the form of an expression: that it reads something which ends in a final
character, or, where it may, reads nothing. -/
def Final (known : Rule → Bool) (mayBeEmpty : Bool) : {α : Type} → G α → Prop
  | _, .pure _ => mayBeEmpty = true
  | _, .token scan => Finishing scan
  | _, .rule name => known name = true
  | _, .seqWith _ first second =>
    Final known false second ∨ Final known mayBeEmpty first ∧ Final known true second
  | _, .choice first second => Final known mayBeEmpty first ∧ Final known mayBeEmpty second
  | _, .optional piece | _, .many piece => mayBeEmpty = true ∧ Final known true piece
  | _, .notAhead _ => mayBeEmpty = true
  | _, .spanned piece | _, .captured piece | _, .building _ piece => Final known mayBeEmpty piece

section

variable {known : Rule → Bool} {mayBeEmpty : Bool} {α β : Type}

theorem Final.reads {rules : (name : Rule) → Reading (Val name)}
    (reach : ∀ name {cursor last value after last'}, rules name cursor last value after last' →
      cursor.Reaches after)
    (finish : ∀ name {cursor last value after last'}, known name = true →
      rules name cursor last value after last' → Finishes cursor after) (piece : G α) :
    ∀ {mayBeEmpty cursor last value after last'}, Final known mayBeEmpty piece →
      piece.Reads rules cursor last value after last' →
        Finishes cursor after ∨ mayBeEmpty = true ∧ after = cursor := by
  induction piece with
  | pure value =>
    rintro mayBeEmpty cursor last _ _ _ empty ⟨_, rfl, _⟩
    exact .inr ⟨empty, rfl⟩
  | token scan =>
    rintro mayBeEmpty cursor last value _ _ finishing ⟨count, scanned, rfl, _⟩
    exact .inl ⟨count, finishing.final scanned, rfl⟩
  | rule name => exact fun final reads => .inl (finish name final reads)
  | seqWith combine first second firstHypothesis secondHypothesis =>
    rintro mayBeEmpty cursor last _ after last' final ⟨_, middle, _, _, reads, reads', _⟩
    have reaches := Reads.reaches reach first reads
    rcases final with final | ⟨front, final⟩
    · rcases secondHypothesis final reads' with finishes | ⟨⟨⟩, _⟩
      exact .inl (.of_reaches reaches finishes)
    · -- The end is that of the second piece, or of the first where the second reads nothing.
      rcases secondHypothesis final reads' with finishes | ⟨_, rfl⟩
      · exact .inl (.of_reaches reaches finishes)
      · exact firstHypothesis front reads
  | choice first second firstHypothesis secondHypothesis =>
    rintro mayBeEmpty cursor last _ after last' ⟨final, final'⟩ (reads | reads)
    · exact firstHypothesis final reads
    · exact secondHypothesis final' reads
  | optional piece inductionHypothesis =>
    rintro mayBeEmpty cursor last _ after last' ⟨rfl, final⟩ (⟨_, reads, _⟩ | ⟨_, rfl, _⟩)
    · exact inductionHypothesis final reads
    · exact .inr ⟨rfl, rfl⟩
  | many piece inductionHypothesis =>
    rintro mayBeEmpty cursor last values after last' ⟨rfl, final⟩ repeats
    induction repeats with
    | nil => exact .inr ⟨rfl, rfl⟩
    | cons head _ restHypothesis =>
      rcases restHypothesis with finishes | ⟨_, rfl⟩
      · exact .inl (.of_reaches (Reads.reaches reach piece head) finishes)
      · exact inductionHypothesis final head
  | notAhead piece =>
    rintro mayBeEmpty cursor last _ _ _ empty ⟨rfl, _⟩
    exact .inr ⟨empty, rfl⟩
  | spanned piece inductionHypothesis | captured piece inductionHypothesis =>
    rintro mayBeEmpty cursor last _ after last' final ⟨_, reads, _⟩
    exact inductionHypothesis final reads
  | building next piece inductionHypothesis =>
    rintro mayBeEmpty cursor last _ after last' final ⟨_, _, reads, _⟩
    exact inductionHypothesis final reads

/-! ## Ways of composing -/

@[simp] theorem final_seq {first : G (α → β)} {second : G α} :
    Final known mayBeEmpty (first <*> second) ↔
      Final known false second ∨ Final known mayBeEmpty first ∧ Final known true second := Iff.rfl

@[simp] theorem final_seqLeft {first : G α} {second : G β} :
    Final known mayBeEmpty (first <* second) ↔
      Final known false second ∨ Final known mayBeEmpty first ∧ Final known true second := Iff.rfl

@[simp] theorem final_seqRight {first : G α} {second : G β} :
    Final known mayBeEmpty (first *> second) ↔
      Final known false second ∨ Final known mayBeEmpty first ∧ Final known true second := Iff.rfl

@[simp] theorem final_map {f : α → β} {piece : G α} :
    Final known mayBeEmpty (f <$> piece) ↔ Final known mayBeEmpty piece := Iff.rfl

@[simp] theorem final_orElse {first second : G α} :
    Final known mayBeEmpty (first <|> second) ↔
      Final known mayBeEmpty first ∧ Final known mayBeEmpty second := Iff.rfl

@[simp] theorem final_optional {piece : G α} :
    Final known mayBeEmpty (.optional piece) ↔ mayBeEmpty = true ∧ Final known true piece := Iff.rfl

@[simp] theorem final_many {piece : G α} :
    Final known mayBeEmpty (.many piece) ↔ mayBeEmpty = true ∧ Final known true piece := Iff.rfl

@[simp] theorem final_spanned {piece : G α} :
    Final known mayBeEmpty (.spanned piece) ↔ Final known mayBeEmpty piece := Iff.rfl

@[simp] theorem final_captured {piece : G α} :
    Final known mayBeEmpty (.captured piece) ↔ Final known mayBeEmpty piece := Iff.rfl

@[simp] theorem final_building {next : α → Build β} {piece : G α} :
    Final known mayBeEmpty (.building next piece) ↔ Final known mayBeEmpty piece := Iff.rfl

@[simp] theorem final_node {piece : G (Origin → α)} :
    Final known mayBeEmpty (node piece) ↔ Final known mayBeEmpty piece := Iff.rfl

@[simp] theorem final_optionalList {piece : G (List α)} :
    Final known mayBeEmpty (optionalList piece) ↔ mayBeEmpty = true ∧ Final known true piece := Iff.rfl

@[simp] theorem final_token {scan : Scanner α} [Finishing scan] :
    Final known mayBeEmpty (.token scan : G α) := inferInstanceAs (Finishing scan)

@[simp] theorem final_sym {sign : String} (final : sign.toList.getLast?.any isFinal = true) :
    Final known mayBeEmpty (sym sign) := word_finishing final

@[simp] theorem final_kw {name : String} (final : name.toList.getLast?.any isFinal = true) :
    Final known mayBeEmpty (kw name) := wholeWord_finishing final

end

/-- The rules whose constructs end in a final character.  A list of expressions may end in a comma, a
file and its items in what is between them. -/
def endsFinal : Rule → Bool
  | .crate | .item | .declaration | .useTree | .stmt | .exprList | .tokenTrees => false
  | _ => true

section

variable {mayBeEmpty : Bool}

@[simp] theorem final_ty : Final endsFinal mayBeEmpty ty := rfl

@[simp] theorem final_tyPath : Final endsFinal mayBeEmpty tyPath := rfl

@[simp] theorem final_bounds : Final endsFinal mayBeEmpty bounds := rfl

@[simp] theorem final_genericArgs : Final endsFinal mayBeEmpty genericArgs := rfl

@[simp] theorem final_pat : Final endsFinal mayBeEmpty pat := rfl

@[simp] theorem final_expr : Final endsFinal mayBeEmpty expr := rfl

@[simp] theorem final_binary : Final endsFinal mayBeEmpty binary := rfl

@[simp] theorem final_unary : Final endsFinal mayBeEmpty unary := rfl

@[simp] theorem final_callOperand : Final endsFinal mayBeEmpty (call .operand : G Expr) := rfl

@[simp] theorem final_callPrimary : Final endsFinal mayBeEmpty (call .primary : G Expr) := rfl

@[simp] theorem final_literal : Final endsFinal mayBeEmpty literal := rfl

@[simp] theorem final_stringLiteral : Final endsFinal mayBeEmpty stringLiteral := rfl

@[simp] theorem final_charLiteral : Final endsFinal mayBeEmpty charLiteral := rfl

@[simp] theorem final_pathExpr : Final endsFinal mayBeEmpty pathExpr := rfl

@[simp] theorem final_block : Final endsFinal mayBeEmpty block := rfl

@[simp] theorem final_unsafeBlock : Final endsFinal mayBeEmpty unsafeBlock := rfl

@[simp] theorem final_blockExpr : Final endsFinal mayBeEmpty blockExpr := rfl

@[simp] theorem final_ifExpr : Final endsFinal mayBeEmpty ifExpr := rfl

@[simp] theorem final_matchExpr : Final endsFinal mayBeEmpty matchExpr := rfl

@[simp] theorem final_whileExpr : Final endsFinal mayBeEmpty whileExpr := rfl

@[simp] theorem final_loopExpr : Final endsFinal mayBeEmpty loopExpr := rfl

@[simp] theorem final_forExpr : Final endsFinal mayBeEmpty forExpr := rfl

@[simp] theorem final_macroBody : Final endsFinal mayBeEmpty macroBody := rfl

@[simp] theorem final_ident : Final endsFinal mayBeEmpty ident := identifier_finishing

@[simp] theorem final_lifetimeName : Final endsFinal mayBeEmpty lifetimeName := lifetime_finishing

@[simp] theorem final_underscore : Final endsFinal mayBeEmpty underscore :=
  wordNotBefore_finishing (by decide) _

@[simp] theorem final_delimited {α : Type} {opening closing : String} {pieces : G (List α)}
    (final : closing.toList.getLast?.any isFinal = true) :
    Final endsFinal mayBeEmpty (delimited opening closing pieces) := .inl (word_finishing final)

@[simp] theorem final_parenthesized {α : Type} {tuple : Origin → List α → α} {pieces : G (List α)} :
    Final endsFinal mayBeEmpty (parenthesized tuple pieces) :=
  .inl (word_finishing (by decide))

end

/-! ## The rules -/

theorem boundsRule_final : Final endsFinal false boundsRule := by
  simp (disch := decide) [boundsRule, bound]

theorem tyRule_final : Final endsFinal false tyRule := by
  simp (disch := decide) [tyRule, refTy, ptrTy, tupleTy, sliceTy, neverTy, inferTy, boundedTy,
    fnPtrTy]

theorem tyPathRule_final : Final endsFinal false tyPathRule := by
  simp (disch := decide) [tyPathRule, tyPathSegment, callArgs]

theorem patRule_final : Final endsFinal false patRule := by
  simp (disch := decide) [patRule, refPat, tuplePat, slicePat, restPat, wildPat, litPat,
    tupleStructPat, structPat, pathPat, identPat]

theorem armPatRule_final : Final endsFinal false armPatRule := by simp [armPatRule]

theorem pathOf_final : Final endsFinal false (pathOf ident) := by simp [pathOf]

theorem blockRule_final : Final endsFinal false blockRule := by simp (disch := decide) [blockRule]

theorem blockLikeRule_final : Final endsFinal false blockLikeRule := by simp [blockLikeRule]

theorem exprRule_final : Final endsFinal false exprRule := by simp [exprRule, range]

theorem operandRule_final : Final endsFinal false operandRule := by simp [operandRule]

theorem binaryRule_final : Final endsFinal false binaryRule := by simp [binaryRule, operand]

theorem unaryRule_final : Final endsFinal false unaryRule := ⟨.inl final_unary, rfl⟩

theorem chainRule_final : Final endsFinal false chainRule := by
  simp (disch := decide) [chainRule, link, methodLink, fieldLink, callArguments, indexLink]

theorem literalRule_final : Final endsFinal false literalRule := by
  have : Finishing (Scanner.ofLength floatLit) := .ofLength floatLit_final
  have : Finishing (Scanner.ofLength intLit) := .ofLength intLit_final
  simp [literalRule, literalNode]

theorem primaryRule_final : Final endsFinal false primaryRule := by
  simp (disch := decide) [primaryRule, closure, closureBody, returnExpr, breakExpr, continueExpr,
    structLit, macroCall, parenExpr, arrayExpr]

theorem pathExprRule_final : Final endsFinal false pathExprRule := by simp [pathExprRule]

theorem ifRule_final : Final endsFinal false ifRule := by simp [ifRule]

theorem matchRule_final : Final endsFinal false matchRule := by simp (disch := decide) [matchRule]

theorem whileRule_final : Final endsFinal false whileRule := by simp [whileRule]

theorem loopRule_final : Final endsFinal false loopRule := by simp [loopRule]

theorem forRule_final : Final endsFinal false forRule := by simp [forRule]

theorem macroBodyRule_final : Final endsFinal false macroBodyRule := by
  simp (disch := decide) [macroBodyRule, macroArgs, macroTokens]

theorem rules_final : ∀ name, endsFinal name = true → Final endsFinal false (rules name)
  | .genericParams, _ => .inl (word_finishing (by decide))
  | .bounds, _ => boundsRule_final
  | .ty, _ => tyRule_final
  | .tyPath, _ => tyPathRule_final
  | .genericArgs, _ => .inl (word_finishing (by decide))
  | .pat, _ => patRule_final
  | .armPat, _ => armPatRule_final
  | .simplePath, _ => pathOf_final
  | .block, _ => blockRule_final
  | .unsafeBlock, _ => .inl final_block
  | .blockLike, _ => blockLikeRule_final
  | .expr, _ => exprRule_final
  | .operand, _ => operandRule_final
  | .binary, _ => binaryRule_final
  | .unary, _ => unaryRule_final
  | .chain, _ => chainRule_final
  | .primary, _ => primaryRule_final
  | .literal, _ => literalRule_final
  | .stringLit, _ => Finishing.ofLength stringLit_final
  | .charLit, _ => Finishing.ofLength charLit_final
  | .pathExpr, _ => pathExprRule_final
  | .ifExpr, _ => ifRule_final
  | .matchExpr, _ => matchRule_final
  | .whileExpr, _ => whileRule_final
  | .loopExpr, _ => loopRule_final
  | .forExpr, _ => forRule_final
  | .macroBody, _ => macroBodyRule_final

/-- What is read by such a rule ends in a final character. -/
theorem readable_finishes {name : Rule} {cursor after : Cursor} {last last' : Nat}
    {value : Val name} (known : endsFinal name = true)
    (readable : Readable rules name cursor last value after last') : Finishes cursor after := by
  have finish := readable
    (fun name cursor _ _ after _ => cursor.Reaches after ∧
      (endsFinal name = true → Finishes cursor after))
    fun name {cursor last value after last'} reads => by
      refine ⟨Reads.reaches (fun _ {_ _ _ _ _} inner => inner.1) _ reads, fun known => ?_⟩
      rcases Final.reads (fun _ {_ _ _ _ _} inner => inner.1)
        (fun _ {_ _ _ _ _} known inner => inner.2 known) _ (rules_final name known) reads with
        finishes | ⟨⟨⟩, _⟩
      exact finishes
  exact finish.2 known

/-- Whatever is read by an expression ends in a final character. -/
def Concludes {α : Type} (piece : G α) : Prop :=
  ∀ {cursor last value after last'}, piece.Reads (Readable rules) cursor last value after last' →
    Finishes cursor after

theorem call_concludes {name : Rule} (known : endsFinal name = true) : Concludes (call name) :=
  fun {_ _ _ _ _} readable => readable_finishes known readable

end DrainLint.Grammar
