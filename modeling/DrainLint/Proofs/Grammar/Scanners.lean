import DrainLint.Grammar.Rule

/-! # Words in the text

No scanner of the grammar reads past the end of the text, and none of those that begin a construct
reads the empty word.

- `Bounded`: a scanner whose words are no longer than the text;
- `blankLength_le`, `lengthWhile_le`, `floatLit_le`, …: the lengths that scanners are made of;
- `Wordful`: a scanner whose words have a character.
-/

namespace DrainLint.Grammar

open Hir Peg Text

/-- A scanner whose words are no longer than the text. -/
class Bounded {α : Type} (scan : Scanner α) : Prop where
  le_length : ∀ {cs value count}, scan cs = some (value, count) → count ≤ cs.length

/-- A length of words that are no longer than the text. -/
def BoundedLength (word : List Char → Option Nat) : Prop :=
  ∀ {cs count}, word cs = some count → count ≤ cs.length

theorem Bounded.ofLength {word : List Char → Option Nat} (bounded : BoundedLength word) :
    Bounded (Scanner.ofLength word) where
  le_length := by
    intro cs value count scanned
    simp only [Scanner.ofLength, Option.map_eq_some_iff, Prod.mk.injEq] at scanned
    obtain ⟨length, found, _, rfl⟩ := scanned
    exact bounded found

/-! ## Lengths -/

theorem lengthWhile_le (p : Char → Bool) (cs : List Char) : lengthWhile p cs ≤ cs.length := by
  have counted : ∀ cs count, lengthWhile.go p count cs ≤ count + cs.length := by
    intro cs
    induction cs with
    | nil => simp [lengthWhile.go]
    | cons c rest inductionHypothesis =>
      intro count
      have := inductionHypothesis (count + 1)
      simp only [lengthWhile.go, List.length_cons]
      split <;> omega
  have := counted cs 0
  simpa [lengthWhile] using this

theorem blankFrom_le (state : BlankState) (read known : Nat) (cs : List Char)
    (ordered : known ≤ read) : blankFrom state read known cs ≤ read + cs.length := by
  fun_induction blankFrom state read known cs <;> grind

theorem blankLength_le (cs : List Char) : blankLength cs ≤ cs.length := by
  simpa [blankLength] using blankFrom_le .outside 0 0 cs (Nat.le_refl 0)

theorem length_le_of_isPrefixOf {word cs : List Char} (leading : word.isPrefixOf cs = true) :
    word.length ≤ cs.length := (List.isPrefixOf_iff_prefix.mp leading).length_le

theorem leadingOne_le (p : Char → Bool) (cs : List Char) :
    (if startsWith p cs then 1 else 0) ≤ cs.length := by
  cases cs with
  | nil => simp [startsWith]
  | cons c rest =>
    simp only [List.length_cons]
    split <;> omega

theorem blockCommentRest_le : BoundedLength blockCommentRest := by
  intro cs
  fun_induction blockCommentRest cs with
  | case1 => simp
  | case2 => simp
  | case3 c rest _ inductionHypothesis =>
    intro count found
    obtain ⟨length, inner, rfl⟩ := Option.map_eq_some_iff.mp found
    have := inductionHypothesis inner
    simp only [List.length_cons]
    omega

theorem comment_le : BoundedLength comment := by
  intro cs count found
  unfold comment at found
  split at found
  · rename_i rest
    have := lengthWhile_le (· != '\n') rest
    cases found
    simp only [List.length_cons]
    omega
  · obtain ⟨length, inner, rfl⟩ := Option.map_eq_some_iff.mp found
    have := blockCommentRest_le inner
    simp only [List.length_cons]
    omega
  · cases found

/-! ## Numbers -/

theorem decimalLength_le : BoundedLength decimalLength := by
  intro cs count found
  unfold decimalLength at found
  split at found
  · cases found
    exact lengthWhile_le _ cs
  · cases found

theorem exponentLength_le : BoundedLength exponentLength := by
  intro cs count found
  unfold exponentLength at found
  split at found
  · rename_i c rest
    split at found
    · have signBound := leadingOne_le (fun c => c == '+' || c == '-') rest
      generalize (if startsWith (fun c => c == '+' || c == '-') rest then 1 else 0) = sign
        at found signBound
      have digits := lengthWhile_le isDigitOrUnderscore (rest.drop sign)
      simp only at found
      split at found
      · cases found
      · cases found
        simp only [List.length_drop, List.length_cons] at *
        omega
    · cases found
  · cases found

theorem floatSuffixLength_le (cs : List Char) : floatSuffixLength cs ≤ cs.length := by
  unfold floatSuffixLength
  split
  · rename_i either
    rcases Bool.or_eq_true_iff.mp either with leading | leading
    · exact length_le_of_isPrefixOf leading
    · exact length_le_of_isPrefixOf leading
  · exact Nat.zero_le _

theorem floatLit_le : BoundedLength floatLit := by
  intro cs count found
  unfold floatLit at found
  obtain ⟨whole, isWhole, found⟩ := Option.bind_eq_some_iff.mp found
  have wholeBound := decimalLength_le isWhole
  have afterWhole : (cs.drop whole).length = cs.length - whole := List.length_drop
  generalize cs.drop whole = rest at found afterWhole
  simp only at found
  split at found
  · rename_i fraction isFraction
    cases found
    have fractionBound : fraction ≤ rest.length := by
      split at isFraction
      · obtain ⟨digits, isDigits, rfl⟩ := Option.map_eq_some_iff.mp isFraction
        have := decimalLength_le isDigits
        simp only [List.length_cons]
        omega
      · cases isFraction
    have exponentBound : (exponentLength (rest.drop fraction)).getD 0 ≤ (rest.drop fraction).length := by
      cases isExponent : exponentLength (rest.drop fraction) with
      | none => exact Nat.zero_le _
      | some exponent => exact exponentLength_le isExponent
    have suffixBound := floatSuffixLength_le
      (rest.drop (fraction + (exponentLength (rest.drop fraction)).getD 0))
    simp only [List.length_drop] at exponentBound suffixBound
    omega
  · split at found
    · rename_i exponent isExponent
      cases found
      have := exponentLength_le isExponent
      have suffixBound := floatSuffixLength_le (rest.drop exponent)
      simp only [List.length_drop] at suffixBound
      omega
    · split at found
      · cases found
      · cases found
        have := floatSuffixLength_le rest
        omega

theorem basedLength_le (mark : List Char) (isDigit : Char → Bool) :
    BoundedLength (basedLength mark isDigit) := by
  intro cs count found
  unfold basedLength at found
  split at found
  · rename_i leading
    have := length_le_of_isPrefixOf leading
    simp only at found
    split at found
    · cases found
    · cases found
      have := lengthWhile_le (fun c => isDigit c || c == '_') (cs.drop mark.length)
      simp only [List.length_drop] at this
      omega
  · cases found

theorem intDigits_le : BoundedLength intDigits := by
  intro cs count found
  simp only [intDigits, Option.orElse_eq_orElse, Option.orElse_eq_or, Option.or_eq_some_iff] at found
  rcases found with found | ⟨_, found⟩
  · exact basedLength_le _ _ found
  rcases found with found | ⟨_, found⟩
  · exact basedLength_le _ _ found
  rcases found with found | ⟨_, found⟩
  · exact basedLength_le _ _ found
  · exact decimalLength_le found

theorem intSuffixLength_le (cs : List Char) : intSuffixLength cs ≤ cs.length := by
  unfold intSuffixLength
  split
  · rename_i c rest
    split
    · split
      · rename_i width found
        have leading := List.find?_some found
        have := length_le_of_isPrefixOf leading
        simp only [List.length_cons]
        omega
      · exact Nat.zero_le _
    · exact Nat.zero_le _
  · exact Nat.zero_le _

theorem intLit_le : BoundedLength intLit := by
  intro cs count found
  obtain ⟨digits, isDigits, rfl⟩ := Option.map_eq_some_iff.mp found
  have := intDigits_le isDigits
  have suffixBound := intSuffixLength_le (cs.drop digits)
  simp only [List.length_drop] at suffixBound
  omega

/-! ## Texts -/

theorem quotedRest_le : BoundedLength quotedRest := by
  intro cs
  fun_induction quotedRest cs with
  | case1 => simp
  | case2 => simp
  | case3 c rest inductionHypothesis =>
    intro count found
    obtain ⟨length, inner, rfl⟩ := Option.map_eq_some_iff.mp found
    have := inductionHypothesis inner
    simp only [List.length_cons]
    omega
  | case4 c rest _ _ inductionHypothesis =>
    intro count found
    obtain ⟨length, inner, rfl⟩ := Option.map_eq_some_iff.mp found
    have := inductionHypothesis inner
    simp only [List.length_cons]
    omega

theorem rawRest_le (hashes : Nat) : BoundedLength (rawRest hashes) := by
  intro cs
  induction cs with
  | nil => simp [rawRest]
  | cons c rest inductionHypothesis =>
    intro count found
    rw [rawRest] at found
    split at found
    · rename_i closing
      have taken : (rest.take hashes).length = hashes := by
        rw [closing.2, List.length_replicate]
      cases found
      simp only [List.length_take, List.length_cons] at *
      omega
    · obtain ⟨length, inner, rfl⟩ := Option.map_eq_some_iff.mp found
      have := inductionHypothesis inner
      simp only [List.length_cons]
      omega

theorem rawStringLit_le : BoundedLength rawStringLit := by
  intro cs count found
  unfold rawStringLit at found
  split at found
  · rename_i rest
    simp only at found
    split at found
    · rename_i body opened
      obtain ⟨length, inner, rfl⟩ := Option.map_eq_some_iff.mp found
      have := rawRest_le _ inner
      have opening := congrArg List.length opened
      simp only [List.length_drop, List.length_cons] at opening ⊢
      omega
    · cases found
  · cases found

theorem stringLit_le : BoundedLength stringLit := by
  intro cs count found
  have marked := leadingOne_le (· == 'b') cs
  unfold stringLit at found
  generalize (if startsWith (· == 'b') cs then 1 else 0) = mark at found marked
  obtain ⟨length, inner, rfl⟩ := Option.map_eq_some_iff.mp found
  have bounded : length ≤ (cs.drop mark).length := by
    simp only [Option.orElse_eq_orElse, Option.orElse_eq_or, Option.or_eq_some_iff] at inner
    rcases inner with raw | ⟨_, plain⟩
    · exact rawStringLit_le raw
    · split at plain
      · rename_i body opened
        obtain ⟨length, quoted, rfl⟩ := Option.map_eq_some_iff.mp plain
        have := quotedRest_le quoted
        rw [opened, List.length_cons]
        omega
      · cases plain
  simp only [List.length_drop] at bounded
  omega

theorem charBody_le : BoundedLength charBody := by
  intro cs count found
  unfold charBody at found
  split at found
  · rename_i c rest
    split at found
    · cases found
      simp
    · split at found
      · split at found
        · rename_i digits
          have := lengthWhile_le isAsciiHexDigit (rest.take 2)
          cases found
          simp only [List.length_take, List.length_cons] at *
          omega
        · cases found
      · split at found
        · split at found
          · rename_i digits
            simp only at found
            split at found
            · rename_i closed
              have := lengthWhile_le isAsciiHexDigit digits
              cases found
              have closing : digits.drop (lengthWhile isAsciiHexDigit digits) ≠ [] := by
                intro ended
                rw [ended] at closed
                simp [startsWith] at closed
              have := List.length_pos_iff.mpr closing
              simp only [List.length_drop, List.length_cons] at *
              omega
            · cases found
          · cases found
        · cases found
  · cases found
  · split at found
    · cases found
    · cases found
      simp
  · cases found

theorem charLit_le : BoundedLength charLit := by
  intro cs count found
  have marked := leadingOne_le (· == 'b') cs
  unfold charLit at found
  generalize (if startsWith (· == 'b') cs then 1 else 0) = mark at found marked
  simp only at found
  split at found
  · rename_i body opened
    obtain ⟨length, isBody, found⟩ := Option.bind_eq_some_iff.mp found
    split at found
    · rename_i closed
      cases found
      have := charBody_le isBody
      have opening := congrArg List.length opened
      have closing : body.drop length ≠ [] := by
        intro ended
        rw [ended] at closed
        simp [startsWith] at closed
      have := List.length_pos_iff.mpr closing
      simp only [List.length_drop, List.length_cons] at *
      omega
    · cases found
  · cases found

/-! ## Scanners -/

instance blanks_bounded : Bounded fun cs => some ((), blankLength cs) where
  le_length := by
    rintro cs value count ⟨⟩
    exact blankLength_le cs

instance word_bounded (w : List Char) : Bounded (word w) where
  le_length := by
    intro cs value count scanned
    unfold word at scanned
    split at scanned
    · rename_i leading
      cases scanned
      exact length_le_of_isPrefixOf leading
    · cases scanned

instance wholeWord_bounded (w : List Char) : Bounded (wholeWord w) where
  le_length := by
    intro cs value count scanned
    unfold wholeWord at scanned
    split at scanned
    · rename_i leading
      cases scanned
      exact length_le_of_isPrefixOf (Bool.and_eq_true_iff.mp leading).1
    · cases scanned

instance wordNotBefore_bounded (w : List Char) (p : Char → Bool) : Bounded (wordNotBefore w p) where
  le_length := by
    intro cs value count scanned
    unfold wordNotBefore at scanned
    split at scanned
    · rename_i leading
      cases scanned
      exact length_le_of_isPrefixOf (Bool.and_eq_true_iff.mp leading).1
    · cases scanned

instance equals_bounded : Bounded equals := wordNotBefore_bounded _ _

instance identifier_bounded : Bounded identifier where
  le_length := by
    intro cs value count scanned
    unfold identifier at scanned
    split at scanned
    · cases scanned
      exact lengthWhile_le _ cs
    · cases scanned

instance lifetime_bounded : Bounded lifetime where
  le_length := by
    intro cs value count scanned
    unfold lifetime at scanned
    split at scanned
    · rename_i rest
      have counted := lengthWhile_le isNameRest rest
      split at scanned
      · have keptLe : (if startsWith (· == '\'') (rest.drop (lengthWhile isNameRest rest)) then
            lengthWhile isNameRest rest - 1 else lengthWhile isNameRest rest) ≤ rest.length := by
          split <;> omega
        simp only at scanned
        generalize (if startsWith (· == '\'') (rest.drop (lengthWhile isNameRest rest)) then
          lengthWhile isNameRest rest - 1 else lengthWhile isNameRest rest) = kept at scanned keptLe
        split at scanned
        · cases scanned
        · cases scanned
          simp only [List.length_cons]
          omega
      · cases scanned
    · cases scanned

instance position_bounded : Bounded position where
  le_length := by
    intro cs value count scanned
    unfold position at scanned
    simp only at scanned
    split at scanned
    · cases scanned
    · cases scanned
      exact lengthWhile_le _ cs

instance floatLit_bounded : Bounded (Scanner.ofLength floatLit) := .ofLength floatLit_le

instance intLit_bounded : Bounded (Scanner.ofLength intLit) := .ofLength intLit_le

instance stringLit_bounded : Bounded (Scanner.ofLength stringLit) := .ofLength stringLit_le

instance charLit_bounded : Bounded (Scanner.ofLength charLit) := .ofLength charLit_le

instance comment_bounded : Bounded (Scanner.ofLength comment) := .ofLength comment_le

instance boolLit_bounded : Bounded boolLit where
  le_length := by
    intro cs value count scanned
    unfold boolLit at scanned
    split at scanned
    · rename_i read length found
      cases scanned
      exact Bounded.le_length found
    · obtain ⟨⟨read, length⟩, found, same⟩ := Option.map_eq_some_iff.mp scanned
      cases same
      exact Bounded.le_length found

instance binaryOp_bounded : Bounded binaryOp where
  le_length := by
    intro cs value count scanned
    unfold binaryOp at scanned
    split at scanned
    -- Each operator is spelled by the characters that the text is seen to start with.
    all_goals first
      | cases scanned; done
      | cases scanned; simp
      | split at scanned
        · cases scanned
        · cases scanned
          simp

instance assignOp_bounded : Bounded assignOp where
  le_length := by
    intro cs value count scanned
    -- Whatever operator stands in front, an equals sign follows it.
    have bounded : ∀ op : Option BinaryOp × Nat,
        (equals (cs.drop op.2)).map (fun _ => (op.1, op.2 + 1)) = some (value, count) →
        count ≤ cs.length := by
      intro op scanned
      obtain ⟨_, found, same⟩ := Option.map_eq_some_iff.mp scanned
      cases same
      unfold equals wordNotBefore at found
      split at found
      · rename_i leading
        have := length_le_of_isPrefixOf (Bool.and_eq_true_iff.mp leading).1
        simp only [List.length_cons, List.length_nil, List.length_drop] at this
        omega
      · cases found
    exact bounded _ scanned

instance unaryMark_bounded : Bounded unaryMark where
  le_length := by
    intro cs value count scanned
    unfold unaryMark at scanned
    split at scanned
    · rename_i rest
      have := lengthWhile_le (fun c => c == ' ' || c == '\t' || c == '\r' || c == '\n') rest
      simp only at scanned
      split at scanned
      · rename_i read length found
        have := Bounded.le_length found
        cases scanned
        simp only [List.length_drop, List.length_cons] at *
        omega
      · cases scanned
        simp
    · cases scanned
      simp
    · cases scanned
      simp
    · cases scanned
      simp
    · cases scanned

instance rangeOp_bounded : Bounded rangeOp where
  le_length := by
    intro cs value count scanned
    unfold rangeOp at scanned
    split at scanned
    · cases scanned
      simp
    · cases scanned
      simp
    · cases scanned

instance plainTokens_bounded : Bounded plainTokens where
  le_length := by
    intro cs value count scanned
    unfold plainTokens at scanned
    simp only at scanned
    split at scanned
    · cases scanned
    · cases scanned
      exact lengthWhile_le _ cs

/-! ## Words that are not empty -/

/-- A scanner whose words have a character. -/
class Wordful {α : Type} (scan : Scanner α) : Prop where
  length_pos : ∀ {cs value count}, scan cs = some (value, count) → 0 < count

theorem Wordful.ofLength {word : List Char → Option Nat}
    (positive : ∀ {cs count}, word cs = some count → 0 < count) :
    Wordful (Scanner.ofLength word) where
  length_pos := by
    intro cs value count scanned
    simp only [Scanner.ofLength, Option.map_eq_some_iff, Prod.mk.injEq] at scanned
    obtain ⟨length, found, _, rfl⟩ := scanned
    exact positive found

theorem lengthWhile_pos {first rest : Char → Bool} {cs : List Char}
    (starts : startsWith first cs = true) (among : ∀ c, first c = true → rest c = true) :
    0 < lengthWhile rest cs := by
  have counted : ∀ cs count, count ≤ lengthWhile.go rest count cs := by
    intro cs
    induction cs with
    | nil => simp [lengthWhile.go]
    | cons c tail inductionHypothesis =>
      intro count
      have := inductionHypothesis (count + 1)
      simp only [lengthWhile.go]
      split <;> omega
  cases cs with
  | nil => cases starts
  | cons c tail =>
    simp only [lengthWhile, lengthWhile.go, among c starts, if_true]
    exact Nat.lt_of_lt_of_le (Nat.succ_pos 0) (counted tail _)

theorem word_count {w cs : List Char} {count : Nat} (scanned : word w cs = some ((), count)) :
    count = w.length := by
  unfold word at scanned
  split at scanned
  · cases scanned
    rfl
  · cases scanned

theorem wholeWord_count {w cs : List Char} {count : Nat}
    (scanned : wholeWord w cs = some ((), count)) : count = w.length := by
  unfold wholeWord at scanned
  split at scanned
  · cases scanned
    rfl
  · cases scanned

theorem word_wordful {w : List Char} (spelled : w ≠ []) : Wordful (word w) where
  length_pos scanned := by
    rw [word_count scanned]
    exact List.length_pos_iff.mpr spelled

theorem wholeWord_wordful {w : List Char} (spelled : w ≠ []) : Wordful (wholeWord w) where
  length_pos scanned := by
    rw [wholeWord_count scanned]
    exact List.length_pos_iff.mpr spelled

instance wordNotBefore_wordful (c : Char) (w : List Char) (p : Char → Bool) :
    Wordful (wordNotBefore (c :: w) p) where
  length_pos := by
    intro cs value count scanned
    unfold wordNotBefore at scanned
    split at scanned
    · cases scanned
      exact Nat.succ_pos _
    · cases scanned

instance identifier_wordful : Wordful identifier where
  length_pos := by
    intro cs value count scanned
    unfold identifier at scanned
    split at scanned
    · next named =>
      cases scanned
      refine lengthWhile_pos (Bool.and_eq_true_iff.mp named).1 fun c isStart => ?_
      simp only [isNameStart, isNameRest, Char.isAlphanum, Bool.or_eq_true] at *
      exact isStart.imp_left .inl
    · cases scanned

theorem decimalLength_pos {cs : List Char} {count : Nat} (found : decimalLength cs = some count) :
    0 < count := by
  unfold decimalLength at found
  split at found
  · next starts =>
    cases found
    exact lengthWhile_pos starts fun c isDigit => by simp [isDigitOrUnderscore, isDigit]
  · cases found

instance floatLit_wordful : Wordful (Scanner.ofLength floatLit) := .ofLength fun {cs count} found => by
  unfold floatLit at found
  obtain ⟨whole, isWhole, found⟩ := Option.bind_eq_some_iff.mp found
  -- The digits before the point or the exponent are there in any case.
  have := decimalLength_pos isWhole
  simp only at found
  split at found
  · cases found
    omega
  · split at found
    · cases found
      omega
    · split at found
      · cases found
      · cases found
        omega

theorem basedLength_pos {mark : List Char} {isDigit : Char → Bool} {cs : List Char} {count : Nat}
    (found : basedLength mark isDigit cs = some count) : 0 < count := by
  unfold basedLength at found
  split at found
  · simp only at found
    split at found
    · cases found
    · cases found
      omega
  · cases found

instance intLit_wordful : Wordful (Scanner.ofLength intLit) := .ofLength fun {cs count} found => by
  obtain ⟨digits, isDigits, rfl⟩ := Option.map_eq_some_iff.mp found
  simp only [intDigits, Option.orElse_eq_orElse, Option.orElse_eq_or, Option.or_eq_some_iff]
    at isDigits
  have : 0 < digits := by
    rcases isDigits with found | ⟨_, found | ⟨_, found | ⟨_, found⟩⟩⟩
    · exact basedLength_pos found
    · exact basedLength_pos found
    · exact basedLength_pos found
    · exact decimalLength_pos found
  omega

theorem rawStringLit_pos {cs : List Char} {count : Nat} (found : rawStringLit cs = some count) :
    0 < count := by
  unfold rawStringLit at found
  split at found
  · simp only at found
    split at found
    · obtain ⟨length, _, rfl⟩ := Option.map_eq_some_iff.mp found
      omega
    · cases found
  · cases found

instance stringLit_wordful : Wordful (Scanner.ofLength stringLit) :=
  .ofLength fun {cs count} found => by
    obtain ⟨length, inner, rfl⟩ := Option.map_eq_some_iff.mp found
    simp only [Option.orElse_eq_orElse, Option.orElse_eq_or, Option.or_eq_some_iff] at inner
    have : 0 < length := by
      rcases inner with raw | ⟨_, plain⟩
      · exact rawStringLit_pos raw
      · split at plain
        · obtain ⟨body, _, rfl⟩ := Option.map_eq_some_iff.mp plain
          omega
        · cases plain
    omega

instance charLit_wordful : Wordful (Scanner.ofLength charLit) := .ofLength fun {cs count} found => by
  unfold charLit at found
  simp only at found
  split at found
  · obtain ⟨length, _, found⟩ := Option.bind_eq_some_iff.mp found
    split at found
    · cases found
      omega
    · cases found
  · cases found

instance boolLit_wordful : Wordful boolLit where
  length_pos := by
    intro cs value count scanned
    unfold boolLit at scanned
    split at scanned
    · next found =>
      cases scanned
      exact (wholeWord_wordful (by decide)).length_pos found
    · obtain ⟨_, found, same⟩ := Option.map_eq_some_iff.mp scanned
      cases same
      exact (wholeWord_wordful (by decide)).length_pos found

instance rangeOp_wordful : Wordful rangeOp where
  length_pos := by
    intro cs value count scanned
    unfold rangeOp at scanned
    split at scanned
    · cases scanned
      omega
    · cases scanned
      omega
    · cases scanned

end DrainLint.Grammar
