import DrainLint.Proofs.Text.Numerals
import DrainLint.Text.Escape

/-! # Spellings of code points

The body of a literal is written code point by code point, each in one of several ways, and may be
continued on the next line in between.  Decoding finds the code points again.

- `Spells`: the ways to write a code point;
- `Written`: the ways to write a sequence of code points;
- `codePoint_eq`: digits after a backslash are read as the number that they denote;
- `Spells.decodes`: decoding takes what is written for a code point, and no more;
- `written_decodes`: it finds the code points that were written.
-/

namespace DrainLint.Text

/-! ## Spellings -/

/-- The characters that a backslash and a mark stand for. -/
def escapeMarks : List (Char × Char) :=
  [('\n', 'n'), ('\r', 'r'), ('\t', 't'), ('\x00', '0'), ('\\', '\\'), ('\'', '\''), ('"', '"')]

/-- The ways to write a code point: by the character itself, by a mark, by two digits or by up to six
between braces. -/
inductive Spells : Nat → List Char → Prop where
  | itself {c : Char} (plain : c ≠ '\\') : Spells c.toNat [c]
  | marked {c mark : Char} (listed : (c, mark) ∈ escapeMarks) : Spells c.toNat ['\\', mark]
  | twoDigits {high low : Char} (isHigh : isDigitOf 16 high = true)
      (isLow : isDigitOf 16 low = true) : Spells (denoted 16 [high, low]) ['\\', 'x', high, low]
  | braced {digits : List Char} (nonempty : 1 ≤ digits.length) (few : digits.length ≤ 6)
      (areDigits : ∀ c ∈ digits, isDigitOf 16 c = true) (inRange : denoted 16 digits ≤ 0x10FFFF) :
      Spells (denoted 16 digits) ('\\' :: 'u' :: '{' :: (digits ++ ['}']))

/-- What may stand before the text of a continued line. -/
def lineBlanks : List Char := [' ', '\t', '\r', '\n']

/-- The ways to write a sequence of code points.  Where a line is continued, the blanks before what
comes next are not part of the text, so that a blank that is has to be written in another way. -/
inductive Written : List Nat → List Char → Prop where
  | nil : Written [] []
  | point {point : Nat} {points : List Nat} {text body : List Char} (spells : Spells point text)
      (rest : Written points body) : Written (point :: points) (text ++ body)
  | continued {points : List Nat} {blanks body : List Char} (areBlank : ∀ c ∈ blanks, c ∈ lineBlanks)
      (next : ∀ c ∈ body.head?, c ∉ lineBlanks) (rest : Written points body) :
      Written points ('\\' :: '\n' :: (blanks ++ body))

/-! ## Digits -/

/-- No digit is a blank, a sign, an underscore, a mark of the base or a brace. -/
theorem digit_apart {c : Char} (isDigit : isDigitOf 16 c = true) :
    isBlank c = false ∧ c ∉ ['+', '-', '_', 'x', 'X', '}'] :=
  forall_digit (p := fun c => isBlank c = false ∧ c ∉ ['+', '-', '_', 'x', 'X', '}']) (by decide)
    isDigit

section

variable {digits : List Char}

theorem readDigits_eq (nonempty : digits ≠ []) (areDigits : ∀ c ∈ digits, isDigitOf 16 c = true) :
    readDigits hexDigit? digits = some (digits.filterMap digit?) := by
  fun_induction readDigits hexDigit? digits with
  | case1 => exact absurd rfl nonempty
  | case2 c =>
    obtain ⟨value, found, -⟩ := digit?_eq_some (areDigits c (by simp))
    rw [hexDigit?_eq_digit? (areDigits c (by simp)), List.filterMap_cons, found]
    rfl
  | case3 c rest =>
    have := (digit_apart (areDigits '_' (by simp))).2
    simp at this
  | case4 c rest isLast _ inductionHypothesis =>
    obtain ⟨value, found, -⟩ := digit?_eq_some (areDigits c (by simp))
    have tail := inductionHypothesis isLast fun c member => areDigits c (.tail _ member)
    rw [hexDigit?_eq_digit? (areDigits c (by simp)), tail, List.filterMap_cons, found]
    rfl

theorem trimBlanks_eq (areDigits : ∀ c ∈ digits, isDigitOf 16 c = true) :
    trimBlanks digits = digits := by
  have kept : ∀ cs : List Char, (∀ c ∈ cs, isDigitOf 16 c = true) → cs.dropWhile isBlank = cs := by
    intro cs areDigits
    cases cs with
    | nil => rfl
    | cons c rest =>
      exact List.dropWhile_cons_of_neg (by simpa using (digit_apart (areDigits c (by simp))).1)
  rw [trimBlanks, kept _ areDigits, kept _ (by simpa using areDigits), List.reverse_reverse]

theorem readHexMagnitude_eq (nonempty : digits ≠ [])
    (areDigits : ∀ c ∈ digits, isDigitOf 16 c = true) :
    readHexMagnitude digits = some (denoted 16 digits) := by
  have read : (readDigits hexDigit? digits).map (ofDigits 16) = some (denoted 16 digits) := by
    rw [readDigits_eq nonempty areDigits, Option.map_some, ofDigits_eq, denoted]
  -- No digit is taken for the mark of the base.
  rcases digits with _ | ⟨first, _ | ⟨second, rest⟩⟩
  · exact absurd rfl nonempty
  · exact read
  · have := (digit_apart (areDigits second (by simp))).2
    simp only [readHexMagnitude]
    rw [if_neg (by simp_all)]
    exact read

theorem readHex_eq (nonempty : digits ≠ []) (areDigits : ∀ c ∈ digits, isDigitOf 16 c = true) :
    readHex digits = some (denoted 16 digits : Int) := by
  rw [readHex, trimBlanks_eq areDigits]
  split
  · have := (digit_apart (areDigits '+' (by simp))).2
    simp at this
  · have := (digit_apart (areDigits '-' (by simp))).2
    simp at this
  · rw [readHexMagnitude_eq nonempty areDigits]
    rfl

theorem codePoint_eq (nonempty : digits ≠ []) (areDigits : ∀ c ∈ digits, isDigitOf 16 c = true)
    (inRange : denoted 16 digits ≤ 0x10FFFF) : codePoint digits = .ok (denoted 16 digits) := by
  rw [codePoint, readHex_eq nonempty areDigits]
  simp only
  rw [if_neg (by omega), if_pos (by omega), Int.toNat_natCast]

end

/-! ## Decoding -/

theorem decodeEscapes_digits (rest : List Char) :
    decodeEscapes ('\\' :: 'x' :: rest) = (do
      let point ← codePoint (rest.take 2)
      return point :: (← decodeEscapes (rest.drop 2))) := by
  rw [decodeEscapes]
  rfl

theorem decodeEscapes_braced (rest : List Char) :
    decodeEscapes ('\\' :: 'u' :: rest) =
      if rest.contains '}' then do
        let point ← codePoint ((rest.takeWhile (· != '}')).drop 1)
        return point :: (← decodeEscapes ((rest.dropWhile (· != '}')).drop 1))
      else .error .malformed := by
  rw [decodeEscapes]
  rfl

theorem decodeEscapes_newline (rest : List Char) :
    decodeEscapes ('\\' :: '\n' :: rest) = decodeEscapes (rest.dropWhile isContinuationBlank) := by
  rw [decodeEscapes]
  rfl

variable {point : Nat} {points : List Nat} {text body : List Char}

theorem Spells.decodes (spells : Spells point text) (rest : decodeEscapes body = .ok points) :
    decodeEscapes (text ++ body) = .ok (point :: points) := by
  cases spells with
  | @itself c plain =>
    rw [List.singleton_append, decodeEscapes, rest]
    · rfl
    · rintro c' rest' rfl
      exact absurd rfl plain
  | @marked c mark listed =>
    have known : ∀ pair ∈ escapeMarks, plainEscape? pair.2 = some pair.1.toNat :=
      List.all_iff_forall_prop.mp (by decide)
    rw [List.cons_append, List.singleton_append, decodeEscapes, known _ listed, rest]
    rfl
  | @twoDigits high low isHigh isLow =>
    have areDigits : ∀ c ∈ [high, low], isDigitOf 16 c = true := by simp [isHigh, isLow]
    have small : denoted 16 [high, low] < 16 ^ 2 := denoted_lt (by decide) areDigits
    have value := codePoint_eq (List.cons_ne_nil _ _) areDigits (by omega)
    show decodeEscapes ('\\' :: 'x' :: high :: low :: body) = _
    rw [decodeEscapes_digits]
    show (do
      let point ← codePoint [high, low]
      return point :: (← decodeEscapes body)) = _
    rw [value, rest]
    rfl
  | @braced digits nonempty few areDigits inRange =>
    have value := codePoint_eq (List.ne_nil_of_length_pos nonempty) areDigits inRange
    have inside : ∀ c ∈ '{' :: digits, (c != '}') = true := by
      intro c member
      rcases List.mem_cons.mp member with rfl | isDigit
      · rfl
      · have := (digit_apart (areDigits c isDigit)).2
        simp_all
    have split : '\\' :: 'u' :: '{' :: (digits ++ ['}']) ++ body =
        '\\' :: 'u' :: (('{' :: digits) ++ '}' :: body) := by simp
    rw [split, decodeEscapes_braced, if_pos (by simp), List.takeWhile_append_of_pos inside,
      List.dropWhile_append_of_pos inside, List.takeWhile_cons_of_neg (by simp),
      List.dropWhile_cons_of_neg (by simp), List.append_nil, List.drop_one, List.tail_cons,
      List.drop_one, List.tail_cons, value, rest]
    rfl

theorem decodeEscapes_continued {blanks : List Char} (areBlank : ∀ c ∈ blanks, c ∈ lineBlanks)
    (next : ∀ c ∈ body.head?, c ∉ lineBlanks) :
    decodeEscapes ('\\' :: '\n' :: (blanks ++ body)) = decodeEscapes body := by
  have isBlank_iff : ∀ c, isContinuationBlank c = true ↔ c ∈ lineBlanks := by
    intro c
    simp [isContinuationBlank, lineBlanks, or_assoc]
  rw [decodeEscapes_newline,
    List.dropWhile_append_of_pos fun c member => (isBlank_iff c).mpr (areBlank c member)]
  cases body with
  | nil => rfl
  | cons c body =>
    rw [List.dropWhile_cons_of_neg fun blank => next c rfl ((isBlank_iff c).mp blank)]

/-- The code points that were written are the ones that are decoded. -/
theorem written_decodes (written : Written points body) : decodeEscapes body = .ok points := by
  induction written with
  | nil => rw [decodeEscapes]
  | point spells _ inductionHypothesis => exact spells.decodes inductionHypothesis
  | continued areBlank next _ inductionHypothesis =>
    rw [decodeEscapes_continued areBlank next, inductionHypothesis]

/-- A text written in every way, with a line that is continued before the last code point. -/
theorem written_decodes_mixed :
    Written [0x61, 0xA, 0xE9, 0x1F600]
        "a\\n\\xE9\\\n \t\\u\x7b01f600\x7d".toList ∧
      decodeEscapes "a\\n\\xE9\\\n \t\\u\x7b01f600\x7d".toList =
        .ok [0x61, 0xA, 0xE9, 0x1F600] := by
  have twoDigits : Spells (denoted 16 ['E', '9']) _ := .twoDigits (by decide) (by decide)
  have braced : Spells (denoted 16 ['0', '1', 'f', '6', '0', '0']) _ :=
    .braced (by decide) (by decide) (List.all_iff_forall_prop.mp (by decide)) (by decide)
  have areBlank : ∀ c ∈ [' ', '\t'], c ∈ lineBlanks := List.all_iff_forall_prop.mp (by decide)
  have continued := Written.continued areBlank
    (fun c first => by cases first; decide) (Written.point braced .nil)
  have written : Written [0x61, 0xA, 0xE9, 0x1F600]
      "a\\n\\xE9\\\n \t\\u\x7b01f600\x7d".toList :=
    .point (.itself (c := 'a') (by decide)) <| .point (.marked (c := '\n') (by decide)) <|
      .point twoDigits continued
  exact ⟨written, written_decodes written⟩

end DrainLint.Text
