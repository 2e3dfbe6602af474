import DrainLint.Grammar.Table
import DrainLint.Proofs.Peg.Readings
import DrainLint.Proofs.SameCode.Equivalence
import DrainLint.Proofs.Text.Numerals
import Mathlib.Data.List.Basic
import Mathlib.Data.List.TakeWhile

/-! # Integers as they are written

An integer is written in one of four bases, with leading zeros, letters of either case and
underscores as one likes, and with a type or without.  The rule of literals takes its digits for the
number that they denote, whatever the spelling.

- `WrittenInteger`: the spellings, with the number that each denotes;
- `intLit_eq`: the rule of integers takes a spelling and no more;
- `length_lt_of_floatLit`: what a number goes on with where it is one with a fraction or an exponent;
- `readInt_eq`: the spelling is split into its digits and its type;
- `Denotes`: what the rule of literals makes of a spelling, as an algorithm and as a relation;
- `integers_denote`: two spellings are the same code exactly if they are of the same number.
-/

namespace DrainLint.Grammar

open Hir Peg Text

/-! ## Spellings -/

/-- The bases that integers are written in. -/
inductive Base where
  | decimal
  | hexadecimal
  | octal
  | binary
  deriving DecidableEq

namespace Base

def radix : Base → Nat
  | decimal => 10
  | hexadecimal => 16
  | octal => 8
  | binary => 2

/-- What stands before the digits. -/
def mark : Base → List Char
  | decimal => []
  | hexadecimal => ['0', 'x']
  | octal => ['0', 'o']
  | binary => ['0', 'b']

end Base

def integerTypes : List String :=
  ["i8", "i16", "i32", "i64", "i128", "isize", "u8", "u16", "u32", "u64", "u128", "usize"]

/-- An integer as it may be written: digits of a base, among them any underscores but none in the
first place of a decimal, and a type or none. -/
structure WrittenInteger where
  base : Base
  digits : List Char
  suffix : String
  areDigits : ∀ c ∈ digits, c = '_' ∨ isDigitOf base.radix c = true
  nonempty : withoutUnderscores digits ≠ []
  starts : base = .decimal → digits.head? ≠ some '_'
  short : base = .decimal → (withoutUnderscores digits).length ≤ maxDecimalDigits
  known : suffix ∈ "" :: integerTypes

namespace WrittenInteger

def text (written : WrittenInteger) : List Char :=
  written.base.mark ++ (written.digits ++ written.suffix.toList)

/-- The number that the digits denote in their base. -/
def value (written : WrittenInteger) : Nat := denoted written.base.radix written.digits

def expr (written : WrittenInteger) (origin : Origin) : Expr :=
  .lit origin (.int written.value) written.suffix

end WrittenInteger

/-! ## Digits -/

theorem denoted_withoutUnderscores (base : Nat) (cs : List Char) :
    denoted base (withoutUnderscores cs) = denoted base cs := by
  have dropped : (withoutUnderscores cs).filterMap digit? = cs.filterMap digit? := by
    rw [withoutUnderscores, List.filterMap_filter]
    refine congrArg (cs.filterMap ·) (funext fun c => ?_)
    by_cases underscore : c = '_'
    · rw [underscore]
      decide
    · rw [if_pos (by simpa using underscore)]
  rw [denoted, denoted, dropped]

theorem readBased_eq {base : Nat} {digits : List Char} (nonempty : digits ≠ [])
    (areDigits : ∀ c ∈ digits, isDigitOf base c = true) :
    readBased base digits = .ok (denoted base digits) := by
  have same : digits.filterMap hexDigit? = digits.filterMap digit? := by
    refine List.filterMap_congr fun c member => ?_
    exact hexDigit?_eq_digit? (areDigits c member)
  rw [readBased, if_neg (by simpa using nonempty), same, ofDigits_eq, denoted]

/-- The digits of an integer are read as the number that they denote. -/
theorem readIntDigits_eq (base : Base) {digits : List Char}
    (nonempty : withoutUnderscores digits ≠ [])
    (areDigits : ∀ c ∈ withoutUnderscores digits, isDigitOf base.radix c = true)
    (short : base = .decimal → (withoutUnderscores digits).length ≤ maxDecimalDigits) :
    readIntDigits (base.mark ++ digits) = .ok (denoted base.radix digits) := by
  have split : withoutUnderscores (base.mark ++ digits) =
      withoutUnderscores base.mark ++ withoutUnderscores digits := List.filter_append ..
  rw [readIntDigits, split, ← denoted_withoutUnderscores, ← readBased_eq nonempty areDigits]
  cases base with
  | hexadecimal => rfl
  | octal => rfl
  | binary => rfl
  | decimal =>
    -- What looks like the mark of another base is not made of decimal digits.
    have unmarked : ∀ m ∈ ['x', 'o', 'b'], ∀ rest,
        withoutUnderscores digits ≠ '0' :: m :: rest := by
      intro m isMark rest split
      have : ∀ m ∈ ['x', 'o', 'b'], isDigitOf 10 m = false :=
        List.all_iff_forall_prop.mp (by decide)
      exact Bool.eq_false_iff.mp (this m isMark) (areDigits m (by simp [split]))
    have empty : withoutUnderscores Base.decimal.mark = [] := rfl
    rw [empty, List.nil_append]
    split
    · exact absurd ‹_› (unmarked 'x' (by simp) _)
    · exact absurd ‹_› (unmarked 'o' (by simp) _)
    · exact absurd ‹_› (unmarked 'b' (by simp) _)
    · rw [if_neg (Nat.not_lt.mpr (short rfl)), Base.radix]

/-! ## Lengths -/

theorem lengthWhile_eq (p : Char → Bool) (cs : List Char) :
    lengthWhile p cs = (cs.takeWhile p).length := by
  have counted : ∀ cs count, lengthWhile.go p count cs = count + (cs.takeWhile p).length := by
    intro cs
    induction cs with
    | nil => intro count; rfl
    | cons c rest inductionHypothesis =>
      intro count
      rw [lengthWhile.go]
      split
      · next passes =>
        rw [inductionHypothesis, List.takeWhile_cons_of_pos passes, List.length_cons]
        omega
      · next fails => rw [List.takeWhile_cons_of_neg fails, List.length_nil, Nat.add_zero]
  rw [lengthWhile, counted, Nat.zero_add]

theorem lengthWhile_append {p : Char → Bool} {front : List Char} (rest : List Char)
    (passes : ∀ c ∈ front, p c = true) :
    lengthWhile p (front ++ rest) = front.length + lengthWhile p rest := by
  rw [lengthWhile_eq, lengthWhile_eq, List.takeWhile_append_of_pos passes, List.length_append]

theorem lengthWhile_of_stops {p : Char → Bool} {rest : List Char} (stops : startsWith p rest = false) :
    lengthWhile p rest = 0 := by
  cases rest with
  | nil => rfl
  | cons c rest =>
    have fails : ¬ p c = true := Bool.eq_false_iff.mp stops
    rw [lengthWhile_eq, List.takeWhile_cons_of_neg fails, List.length_nil]

theorem basedLength_eq (mark : List Char) {digits rest : List Char} {isDigit : Char → Bool}
    (nonempty : digits ≠ []) (passes : ∀ c ∈ digits, (isDigit c || c == '_') = true)
    (stops : startsWith (fun c => isDigit c || c == '_') rest = false) :
    basedLength mark isDigit (mark ++ (digits ++ rest)) = some (mark.length + digits.length) := by
  have count := lengthWhile_append rest passes
  rw [lengthWhile_of_stops stops, Nat.add_zero] at count
  have some := List.length_pos_iff.mpr nonempty
  simp only [basedLength]
  rw [if_pos (List.isPrefixOf_iff_prefix.mpr (List.prefix_append _ _)), List.drop_left, count,
    if_neg (by omega)]

/-- Whether a character after digits may belong to them, or make a mark of a base with them. -/
def carriesOn (c : Char) : Bool := isAsciiHexDigit c || c == '_' || c == 'x' || c == 'o'

theorem carriesOn_of_digit {c : Char} (digit : isDigitOrUnderscore c = true) : carriesOn c = true := by
  rcases Bool.or_eq_true_iff.mp digit with digit | underscore
  · simp [carriesOn, isAsciiHexDigit, digit]
  · simp [carriesOn, underscore]

theorem startsWith_of_imp {p q : Char → Bool} {cs : List Char} (among : ∀ c, p c = true → q c = true)
    (stops : startsWith q cs = false) : startsWith p cs = false := by
  cases cs with
  | nil => rfl
  | cons c cs => exact Bool.eq_false_iff.mpr fun passes => Bool.eq_false_iff.mp stops (among c passes)

/-- A decimal is not taken for a mark of a base and digits after it. -/
theorem basedLength_decimal {digits rest : List Char} {m : Char} {isDigit : Char → Bool}
    (areDigits : ∀ c ∈ digits, c = '_' ∨ isDigitOf 10 c = true) (nonempty : digits ≠ [])
    (stops : startsWith carriesOn rest = false) (isMark : m ∈ ['x', 'o', 'b']) :
    basedLength ['0', m] isDigit (digits ++ rest) = none := by
  have marks : ∀ m ∈ ['x', 'o', 'b'], carriesOn m = true ∧ m ≠ '_' ∧ isDigitOf 10 m = false :=
    List.all_iff_forall_prop.mp (by decide)
  obtain ⟨carries, notUnderscore, notDigit⟩ := marks m isMark
  have second : ∀ first tail, digits ++ rest = first :: m :: tail → False := by
    intro first tail split
    rcases digits with _ | ⟨d, _ | ⟨d', digits⟩⟩
    · exact nonempty rfl
    · obtain ⟨-, rfl⟩ := List.cons.inj split
      exact Bool.eq_false_iff.mp stops carries
    · obtain ⟨-, split⟩ := List.cons.inj split
      obtain ⟨rfl, -⟩ := List.cons.inj split
      rcases areDigits d' (by simp) with rfl | isDigit
      · exact notUnderscore rfl
      · exact Bool.eq_false_iff.mp notDigit isDigit
  rw [basedLength, if_neg]
  intro leading
  obtain ⟨tail, split⟩ := List.isPrefixOf_iff_prefix.mp leading
  exact second '0' tail split.symm

theorem decimalLength_append {digits : List Char} (rest : List Char)
    (areDigits : ∀ c ∈ digits, c = '_' ∨ isDigitOf 10 c = true) (nonempty : digits ≠ [])
    (starts : digits.head? ≠ some '_') :
    decimalLength (digits ++ rest) = some (digits.length + lengthWhile isDigitOrUnderscore rest) := by
  have decimal {c : Char} (isDigit : isDigitOf 10 c = true) : isAsciiDigit c = true :=
    forall_digit (p := fun c => isDigitOf 10 c = true → isAsciiDigit c = true) (by decide) isDigit
      isDigit
  have passes : ∀ c ∈ digits, isDigitOrUnderscore c = true := by
    intro c member
    rcases areDigits c member with rfl | isDigit
    · rfl
    · rw [isDigitOrUnderscore, decimal isDigit, Bool.true_or]
  have first : startsWith isAsciiDigit (digits ++ rest) = true := by
    rcases digits with _ | ⟨d, digits⟩
    · exact absurd rfl nonempty
    · rcases areDigits d (by simp) with rfl | isDigit
      · exact absurd rfl starts
      · exact decimal isDigit
  rw [decimalLength, if_pos first, lengthWhile_append rest passes]

/-- The digits of an integer are found up to where they stop. -/
theorem intDigits_eq (base : Base) {digits rest : List Char}
    (areDigits : ∀ c ∈ digits, c = '_' ∨ isDigitOf base.radix c = true) (nonempty : digits ≠ [])
    (starts : base = .decimal → digits.head? ≠ some '_') (stops : startsWith carriesOn rest = false) :
    intDigits (base.mark ++ (digits ++ rest)) = some (base.mark.length + digits.length) := by
  have passes (isDigit : Char → Bool) (listed : (lowerDigits ++ upperDigits).all fun c =>
      isDigitOf base.radix c = true → isDigit c = true) :
      ∀ c ∈ digits, (isDigit c || c == '_') = true := by
    intro c member
    rcases areDigits c member with rfl | known
    · exact Bool.or_true _
    · rw [forall_digit listed known known, Bool.true_or]
  have ends (isDigit : Char → Bool) (among : ∀ c, isDigit c = true → isAsciiHexDigit c = true) :
      startsWith (fun c => isDigit c || c == '_') rest = false := by
    refine startsWith_of_imp (fun c known => ?_) stops
    rcases Bool.or_eq_true_iff.mp known with isDigit | underscore
    · simp [carriesOn, among c isDigit]
    · simp [carriesOn, underscore]
  cases base with
  | hexadecimal =>
    have found := basedLength_eq ['0', 'x'] nonempty (passes isAsciiHexDigit (by decide))
      (ends _ fun _ isDigit => isDigit)
    rw [intDigits, Base.mark, found]
    rfl
  | octal =>
    have among : ∀ c : Char, (decide ('0' ≤ c) && decide (c ≤ '7')) = true →
        isAsciiHexDigit c = true := by
      intro c isDigit
      rw [Bool.and_eq_true, decide_eq_true_eq, decide_eq_true_eq] at isDigit
      simp [isAsciiHexDigit, isAsciiDigit, isDigit.1, Char.le_trans isDigit.2 (by decide : '7' ≤ '9')]
    have found := basedLength_eq ['0', 'o'] nonempty
      (passes (fun c => '0' ≤ c && c ≤ '7') (by decide)) (ends _ among)
    rw [intDigits, Base.mark, found]
    rfl
  | binary =>
    have among : ∀ c : Char, (c == '0' || c == '1') = true → isAsciiHexDigit c = true := by
      intro c isDigit
      rcases Bool.or_eq_true_iff.mp isDigit with same | same
      · rw [eq_of_beq same]; decide
      · rw [eq_of_beq same]; decide
    have found := basedLength_eq ['0', 'b'] nonempty
      (passes (fun c => c == '0' || c == '1') (by decide)) (ends _ among)
    rw [intDigits, Base.mark, found]
    rfl
  | decimal =>
    have stops' : startsWith isDigitOrUnderscore rest = false :=
      startsWith_of_imp (fun _ digit => carriesOn_of_digit digit) stops
    rw [intDigits, Base.mark, List.nil_append, basedLength_decimal areDigits nonempty stops (by simp),
      basedLength_decimal areDigits nonempty stops (by simp),
      basedLength_decimal areDigits nonempty stops (by simp),
      decimalLength_append rest areDigits nonempty (starts rfl),
      lengthWhile_of_stops stops']
    simp

/-! ## Suffixes -/

theorem intSuffixLength_eq {suffix : String} (known : suffix ∈ integerTypes) (rest : List Char) :
    intSuffixLength (suffix.toList ++ rest) = suffix.toList.length := by
  simp only [integerTypes, List.mem_cons, List.not_mem_nil, or_false] at known
  rcases known with rfl | rfl | rfl | rfl | rfl | rfl | rfl | rfl | rfl | rfl | rfl | rfl <;> rfl

theorem isNameRest_of_isAsciiHexDigit {c : Char} (digit : isAsciiHexDigit c = true) :
    isNameRest c = true := by
  have upper : c.isUpper = decide (65 ≤ c.val ∧ c.val ≤ 90) := rfl
  have lower : c.isLower = (decide (97 ≤ c.val) && decide (c.val ≤ 122)) := rfl
  have alpha : c.isAlpha = (c.isUpper || c.isLower) := rfl
  simp only [isAsciiHexDigit, isAsciiDigit, Bool.or_eq_true, Bool.and_eq_true, decide_eq_true_eq,
    Char.le_def, UInt32.le_iff_toNat_le] at digit
  change ((48 ≤ c.toNat ∧ c.toNat ≤ 57) ∨ (97 ≤ c.toNat ∧ c.toNat ≤ 102)) ∨
    (65 ≤ c.toNat ∧ c.toNat ≤ 70) at digit
  simp only [isNameRest, Char.isAlphanum, Char.isDigit, alpha, upper, lower, Bool.or_eq_true,
    Bool.and_eq_true, decide_eq_true_eq, UInt32.le_iff_toNat_le, ge_iff_le]
  change (((65 ≤ c.toNat ∧ c.toNat ≤ 90) ∨ (97 ≤ c.toNat ∧ c.toNat ≤ 122)) ∨
    (48 ≤ c.toNat ∧ c.toNat ≤ 57)) ∨ _
  omega

theorem isNameRest_of_carriesOn {c : Char} (carries : carriesOn c = true) :
    isNameRest c = true := by
  simp only [carriesOn, Bool.or_eq_true, beq_iff_eq] at carries
  rcases carries with ((digit | rfl) | rfl) | rfl
  · exact isNameRest_of_isAsciiHexDigit digit
  · decide
  · decide
  · decide

theorem intSuffixLength_none {rest : List Char} (stops : startsWith isNameRest rest = false) :
    intSuffixLength rest = 0 := by
  cases rest with
  | nil => rfl
  | cons c rest =>
    rw [intSuffixLength, if_neg]
    rintro (rfl | rfl) <;> cases stops

/-! ## Floating point numbers -/

/-- Whether a character after digits makes them a floating point number. -/
def isFloatMark (c : Char) : Bool := c == '.' || c == 'e' || c == 'E' || c == 'f'

theorem named_or_point_of_isFloatMark {c : Char} (mark : isFloatMark c = true) :
    isNameRest c = true ∨ c = '.' := by
  simp only [isFloatMark, Bool.or_eq_true, beq_iff_eq] at mark
  rcases mark with ((rfl | rfl) | rfl) | rfl
  · exact .inr rfl
  · exact .inl (by decide)
  · exact .inl (by decide)
  · exact .inl (by decide)

theorem exponentLength_marked {cs : List Char} {count : Nat} (found : exponentLength cs = some count) :
    startsWith isFloatMark cs = true ∧ 0 < count := by
  cases cs with
  | nil => cases found
  | cons c rest =>
    obtain ⟨isMark, found⟩ := Option.ite_none_right_eq_some.mp found
    obtain ⟨-, counted⟩ := Option.ite_none_left_eq_some.mp found
    obtain rfl := Option.some.inj counted
    exact ⟨by rcases isMark with rfl | rfl <;> rfl, by omega⟩

theorem floatSuffixLength_marked {cs : List Char} (some : floatSuffixLength cs ≠ 0) :
    startsWith isFloatMark cs = true := by
  rw [floatSuffixLength, ite_ne_right_iff, Bool.or_eq_true] at some
  rcases some.1 with leading | leading
  · obtain ⟨rest, rfl⟩ := List.isPrefixOf_iff_prefix.mp leading
    rfl
  · obtain ⟨rest, rfl⟩ := List.isPrefixOf_iff_prefix.mp leading
    rfl

/-- A floating point number goes on after its first digits. -/
theorem floatLit_marked {cs : List Char} {count : Nat} (found : floatLit cs = some count) :
    ∃ whole, decimalLength cs = some whole ∧ whole < count ∧
      startsWith isFloatMark (cs.drop whole) = true := by
  obtain ⟨whole, isWhole, found⟩ := Option.bind_eq_some_iff.mp found
  refine ⟨whole, isWhole, ?_⟩
  simp only at found
  split at found
  · next fraction isFraction =>
    split at isFraction
    · next rest split =>
      obtain ⟨length, -, rfl⟩ := Option.map_eq_some_iff.mp isFraction
      cases found
      exact ⟨by omega, by rw [split]; rfl⟩
    · cases isFraction
  · split at found
    · next exponent isExponent =>
      obtain ⟨marked, positive⟩ := exponentLength_marked isExponent
      cases found
      exact ⟨by omega, marked⟩
    · split at found
      · cases found
      · next isTyped =>
        cases found
        exact ⟨by omega, floatSuffixLength_marked isTyped⟩

/-- What starts with a digit is no literal but a number. -/
theorem others_none {c : Char} (isDigit : isDigitOf 10 c = true) (rest : List Char) :
    stringLit (c :: rest) = none ∧ charLit (c :: rest) = none ∧ boolLit (c :: rest) = none := by
  have listed : c ∈ ['0', '1', '2', '3', '4', '5', '6', '7', '8', '9'] :=
    forall_digit (p := fun c => isDigitOf 10 c = true →
      c ∈ ['0', '1', '2', '3', '4', '5', '6', '7', '8', '9']) (by decide) isDigit isDigit
  simp only [List.mem_cons, List.not_mem_nil, or_false] at listed
  rcases listed with rfl | rfl | rfl | rfl | rfl | rfl | rfl | rfl | rfl | rfl <;>
    exact ⟨rfl, rfl, rfl⟩

/-! ## Lexemes -/

/-- Whether a text goes on with what no word and no number has, or is at its end. -/
def IsApart (rest : List Char) : Prop := ∀ c ∈ rest.head?, isNameRest c = false ∧ c ≠ '.'

theorem IsApart.startsWith {p : Char → Bool} {rest : List Char} (apart : IsApart rest)
    (among : ∀ c, p c = true → isNameRest c = true ∨ c = '.') : startsWith p rest = false := by
  cases rest with
  | nil => rfl
  | cons c rest =>
    obtain ⟨notNamed, notPoint⟩ := apart c rfl
    refine Bool.eq_false_iff.mpr fun passes => ?_
    rcases among c passes with named | point
    · exact Bool.eq_false_iff.mp notNamed named
    · exact notPoint point

namespace WrittenInteger

variable (written : WrittenInteger)

theorem digits_ne_nil : written.digits ≠ [] := by
  intro empty
  exact written.nonempty (by rw [empty]; rfl)

theorem suffix_eq_or : written.suffix = "" ∨ written.suffix ∈ integerTypes :=
  List.mem_cons.mp written.known

theorem startsWith_suffix {p : Char → Bool} {rest : List Char} (signed : p 'i' = false)
    (unsigned : p 'u' = false) (stops : written.suffix = "" → startsWith p rest = false) :
    startsWith p (written.suffix.toList ++ rest) = false := by
  rcases written.suffix_eq_or with none | listed
  · rw [none]
    exact stops none
  · have first : ∀ suffix ∈ integerTypes,
        suffix.toList.head? = some 'i' ∨ suffix.toList.head? = some 'u' := by decide
    rcases first _ listed with starts | starts
    · obtain ⟨width, split⟩ := List.head?_eq_some_iff.mp starts
      rw [split]
      exact signed
    · obtain ⟨width, split⟩ := List.head?_eq_some_iff.mp starts
      rw [split]
      exact unsigned

theorem digits_stop (rest : List Char)
    (stops : written.suffix = "" → startsWith carriesOn rest = false) :
    intDigits (written.text ++ rest) =
      some (written.base.mark.length + written.digits.length) := by
  rw [text, List.append_assoc, List.append_assoc]
  exact intDigits_eq written.base written.areDigits written.digits_ne_nil written.starts
    (written.startsWith_suffix rfl rfl stops)

theorem drop_digits (rest : List Char) :
    (written.text ++ rest).drop (written.base.mark.length + written.digits.length) =
      written.suffix.toList ++ rest := by
  rw [text, List.append_assoc, List.append_assoc, ← List.append_assoc, ← List.length_append,
    List.drop_left]

theorem take_digits :
    written.text.take (written.base.mark.length + written.digits.length) =
      written.base.mark ++ written.digits := by
  rw [text, ← List.append_assoc, ← List.length_append, List.take_left]

/-- The rule of integers takes what is written and no more. -/
theorem intLit_eq {rest : List Char} (apart : IsApart rest) :
    intLit (written.text ++ rest) = some written.text.length := by
  have stops : startsWith carriesOn rest = false :=
    apart.startsWith fun c known => .inl (isNameRest_of_carriesOn known)
  have suffix : intSuffixLength (written.suffix.toList ++ rest) = written.suffix.toList.length := by
    rcases written.suffix_eq_or with none | listed
    · rw [none]
      exact intSuffixLength_none (apart.startsWith fun c named => .inl named)
    · exact intSuffixLength_eq listed rest
  rw [intLit, written.digits_stop _ fun _ => stops, Option.map_some, drop_digits, suffix, text,
    List.length_append, List.length_append, Nat.add_assoc]

theorem areDigits_without :
    ∀ c ∈ withoutUnderscores written.digits, isDigitOf written.base.radix c = true := by
  intro c member
  obtain ⟨listed, notUnderscore⟩ := List.mem_filter.mp member
  exact (written.areDigits c listed).resolve_left (by simpa using notUnderscore)

theorem readInt_eq : readInt written.text = .ok (written.value, written.suffix) := by
  have count := written.digits_stop [] fun _ => rfl
  have suffix := written.drop_digits []
  rw [List.append_nil] at count suffix
  rw [readInt, count, Option.getD_some, take_digits,
    readIntDigits_eq _ written.nonempty written.areDigits_without written.short, suffix, List.append_nil]
  show Except.ok (_, String.ofList written.suffix.toList) = _
  rw [String.ofList_toList]
  rfl

/-- Letters of either case, an underscore at the end and a type. -/
example : ∃ written : WrittenInteger, written.text = "0xFf_u8".toList ∧ written.value = 255 ∧
    readInt written.text = .ok (255, "u8") :=
  ⟨⟨.hexadecimal, "Ff_".toList, "u8", List.all_iff_forall_prop.mp (by decide), by decide, by decide,
    by decide, by decide⟩, by decide, by decide, rfl⟩

/-- Where an integer is read as a floating point number, more is read than what is written. -/
theorem length_lt_of_floatLit {rest : List Char} {count : Nat}
    (found : floatLit (written.text ++ rest) = some count) :
    written.text.length < count ∧ ¬ IsApart rest := by
  obtain ⟨whole, isWhole, longer, marked⟩ := floatLit_marked found
  by_cases isDecimal : written.base = .decimal
  · have areDigits := written.areDigits
    rw [isDecimal] at areDigits
    have plain : written.text = written.digits ++ written.suffix.toList := by
      rw [text, isDecimal]
      rfl
    rw [plain, List.append_assoc] at isWhole marked
    rw [decimalLength_append _ areDigits written.digits_ne_nil (written.starts isDecimal)] at isWhole
    obtain rfl := Option.some.inj isWhole
    -- A type, or what no number has, comes right after the digits and ends the number.
    have goesOn : ¬ (written.suffix = "" → IsApart rest) := by
      intro stops
      have digitsStop := written.startsWith_suffix (p := isDigitOrUnderscore) rfl rfl fun none =>
        (stops none).startsWith fun c digit => .inl (isNameRest_of_carriesOn (carriesOn_of_digit digit))
      have marksStop := written.startsWith_suffix (p := isFloatMark) rfl rfl fun none =>
        (stops none).startsWith fun c mark => named_or_point_of_isFloatMark mark
      rw [lengthWhile_of_stops digitsStop, Nat.add_zero, List.drop_left, marksStop] at marked
      cases marked
    obtain ⟨none, ends⟩ := Classical.not_imp.mp goesOn
    rw [plain, none]
    refine ⟨?_, ends⟩
    simp only [List.length_append]
    exact Nat.lt_of_le_of_lt (Nat.add_le_add_left (Nat.zero_le _) _) longer
  · -- The mark of a base stops the digits of a decimal, and makes no floating point number.
    obtain ⟨m, isMark, split⟩ : ∃ m ∈ ['x', 'o', 'b'], written.base.mark = ['0', m] := by
      cases h : written.base with
      | decimal => exact absurd h isDecimal
      | hexadecimal => exact ⟨'x', by simp, rfl⟩
      | octal => exact ⟨'o', by simp, rfl⟩
      | binary => exact ⟨'b', by simp, rfl⟩
    have marks : ∀ m ∈ ['x', 'o', 'b'], isDigitOrUnderscore m = false ∧ isFloatMark m = false :=
      List.all_iff_forall_prop.mp (by decide)
    obtain ⟨notDigit, notMark⟩ := marks m isMark
    have front : written.text ++ rest =
        ['0'] ++ m :: (written.digits ++ written.suffix.toList ++ rest) := by
      rw [text, split]
      simp
    rw [front] at isWhole marked
    have stops : startsWith isDigitOrUnderscore
        (m :: (written.digits ++ written.suffix.toList ++ rest)) = false := notDigit
    have zero : ∀ c ∈ ['0'], c = '_' ∨ isDigitOf 10 c = true :=
      List.all_iff_forall_prop.mp (by decide)
    rw [decimalLength_append _ zero (by decide) (by decide), lengthWhile_of_stops stops] at isWhole
    obtain rfl := Option.some.inj isWhole
    exact absurd marked (Bool.eq_false_iff.mp notMark)

theorem exists_first_digit : ∃ first tail, written.text = first :: tail ∧
    isDigitOf 10 first = true := by
  rw [text]
  cases base : written.base with
  | decimal =>
    obtain ⟨first, tail, split⟩ := List.exists_cons_of_ne_nil written.digits_ne_nil
    have areDigits := written.areDigits
    have starts := written.starts base
    rw [base] at areDigits
    rw [split] at areDigits starts ⊢
    refine ⟨first, _, rfl, (areDigits first (by simp)).resolve_left ?_⟩
    rintro rfl
    exact starts rfl
  | hexadecimal => exact ⟨'0', _, rfl, by decide⟩
  | octal => exact ⟨'0', _, rfl, by decide⟩
  | binary => exact ⟨'0', _, rfl, by decide⟩

end WrittenInteger

/-! ## Readings and runs -/

section

variable {word : List Char → Option Nat}
  {read : List Char → Except LiteralFault (Literal × String)}

theorem literalNode_reads {readings : (name : Rule) → Reading (Val name)} {cursor after : Cursor}
    {last last' : Nat} {built : Expr}
    (reads : (literalNode word read).Reads readings cursor last built after last') :
    ∃ count value suffix, word cursor.rest = some count ∧ after = cursor.advance count ∧
      read (cursor.rest.take count) = .ok (value, suffix) ∧
      built = .lit ⟨last + 1, Span.between cursor.offset after.offset⟩ value suffix ∧
      last' = last + 1 := by
  obtain ⟨⟨span, spelling⟩, between, ⟨_, ⟨count, scanned, rfl, rfl⟩, same⟩, succeeded⟩ := reads
  obtain ⟨rfl, rfl⟩ := Prod.mk.inj same
  obtain ⟨count', found, same⟩ := Option.map_eq_some_iff.mp scanned
  obtain ⟨rfl, rfl⟩ := Prod.mk.inj same
  obtain ⟨⟨value, suffix⟩, between, known, made⟩ := Build.bind_eq_ok.mp succeeded
  obtain ⟨isRead, rfl⟩ := Build.ofExcept_eq_ok.mp known
  obtain ⟨rfl, rfl⟩ := Build.node_eq_ok.mp made
  exact ⟨_, value, suffix, found, rfl, isRead, rfl, rfl⟩

variable (call : (name : Rule) → Cursor → Run Rule Val (Outcome (Val name))) (budget : Nat)
  (cursor : Cursor) (memo : Memo Rule Val)

theorem literalNode_run_none (none : word cursor.rest = none) :
    ((literalNode word read).run call budget cursor).run memo = (.none, memo) := by
  have scanned : Scanner.ofLength word cursor.rest = .none := by rw [Scanner.ofLength, none]; rfl
  simp only [literalNode, run, scanned]
  rfl

theorem literalNode_run_some {count : Nat} {value : Literal} {suffix : String}
    (found : word cursor.rest = some count)
    (isRead : read (cursor.rest.take count) = .ok (value, suffix)) :
    ∃ build, ((literalNode word read).run call budget cursor).run memo =
        (some (build, cursor.advance count), memo) ∧
      ∀ last, build last =
        .ok (.lit ⟨last + 1, Span.between cursor.offset (cursor.offset + count)⟩ value suffix,
          last + 1) := by
  have scanned : Scanner.ofLength word cursor.rest = some (cursor.rest.take count, count) := by
    rw [Scanner.ofLength, found]
    rfl
  simp only [literalNode, run, scanned]
  refine ⟨_, rfl, fun last => ?_⟩
  exact Build.bind_eq_ok.mpr ⟨_, last, Build.map_eq_ok.mpr ⟨_, rfl, rfl⟩,
    Build.bind_eq_ok.mpr ⟨(value, suffix), last, Build.ofExcept_eq_ok.mpr ⟨isRead, rfl⟩,
      Build.node_eq_ok.mpr ⟨rfl, rfl⟩⟩⟩

variable {α : Type} {first second : G α} {call budget cursor memo}

theorem choice_run : (first <|> second).run call budget cursor =
    (first.run call budget cursor >>= fun
      | some found => pure (some found)
      | none => second.run call budget cursor) := rfl

theorem choice_run_some {found : Build α × Cursor}
    (ran : (first.run call budget cursor).run memo = (some found, memo)) :
    ((first <|> second).run call budget cursor).run memo = (some found, memo) := by
  rw [choice_run, StateT.run_bind, ran]
  rfl

theorem choice_run_none (ran : (first.run call budget cursor).run memo = (none, memo)) :
    ((first <|> second).run call budget cursor).run memo =
      (second.run call budget cursor).run memo := by
  rw [choice_run, StateT.run_bind, ran]
  rfl

end

/-! ## Values -/

namespace WrittenInteger

/-- An integer as the rule of literals reads it. -/
def readIntLiteral (spelling : List Char) : Except LiteralFault (Literal × String) :=
  (readInt spelling).map fun (value, suffix) => (.int value, suffix)

/-- The rule of literals takes an integer for the number that its digits denote. -/
structure Denotes (written : WrittenInteger) : Prop where
  /-- Before what no word and no number has, the rule takes what is written, all of it and no more. -/
  accepted : ∀ {rest}, IsApart rest → ∀ call budget offset memo, ∃ build,
    ((rules .literal).run call budget ⟨offset, written.text ++ rest⟩).run memo =
        (some (build, ⟨offset + written.text.length, rest⟩), memo) ∧
      ∀ last, build last = .ok (written.expr
        ⟨last + 1, Span.between offset (offset + written.text.length)⟩, last + 1)
  /-- Wherever the rule takes what is written and no more, this is what is built. -/
  reads : ∀ {rest offset last value last'},
    Readable rules .literal ⟨offset, written.text ++ rest⟩ last value
        ⟨offset + written.text.length, rest⟩ last' →
      value = written.expr ⟨last + 1, Span.between offset (offset + written.text.length)⟩ ∧
        last' = last + 1

theorem accepted (written : WrittenInteger) {rest : List Char} (apart : IsApart rest)
    (call : (name : Rule) → Cursor → Run Rule Val (Outcome (Val name))) (budget offset : Nat)
    (memo : Memo Rule Val) : ∃ build,
      ((rules .literal).run call budget ⟨offset, written.text ++ rest⟩).run memo =
          (some (build, ⟨offset + written.text.length, rest⟩), memo) ∧
        ∀ last, build last = .ok (written.expr
          ⟨last + 1, Span.between offset (offset + written.text.length)⟩, last + 1) := by
  have noFloat : floatLit (written.text ++ rest) = none := by
    cases found : floatLit (written.text ++ rest) with
    | none => rfl
    | some count => exact absurd apart (written.length_lt_of_floatLit found).2
  have isRead : readIntLiteral ((written.text ++ rest).take written.text.length) =
      .ok (.int written.value, written.suffix) := by
    rw [List.take_left, readIntLiteral, written.readInt_eq]
    rfl
  obtain ⟨build, ran, built⟩ := literalNode_run_some call budget ⟨offset, written.text ++ rest⟩ memo
    (written.intLit_eq apart) isRead
  rw [Cursor.advance, List.drop_left] at ran
  exact ⟨build, (choice_run_none (literalNode_run_none _ _ _ _ noFloat)).trans (choice_run_some ran),
    built⟩

theorem reads (written : WrittenInteger) {rest : List Char} {offset last last' : Nat} {value : Expr}
    (readable : Readable rules .literal ⟨offset, written.text ++ rest⟩ last value
      ⟨offset + written.text.length, rest⟩ last') :
    value = written.expr ⟨last + 1, Span.between offset (offset + written.text.length)⟩ ∧
      last' = last + 1 := by
  obtain ⟨first, tail, split, isDigit⟩ := written.exists_first_digit
  obtain ⟨noString, noChar, noBool⟩ := others_none isDigit (tail ++ rest)
  rw [← List.cons_append, ← split] at noString noChar noBool
  have taken {count : Nat} (same : (⟨offset + written.text.length, rest⟩ : Cursor) =
      (⟨offset, written.text ++ rest⟩ : Cursor).advance count) : count = written.text.length := by
    have := congrArg Cursor.offset same
    exact (Nat.add_left_cancel this).symm
  rcases readable.reads with float | int | string | char | bool
  · obtain ⟨count, _, _, found, same, -⟩ := literalNode_reads float
    have longer := (written.length_lt_of_floatLit found).1
    exact absurd (taken same) longer.ne'
  · obtain ⟨count, _, _, -, same, isRead, rfl, rfl⟩ := literalNode_reads int
    obtain rfl := taken same
    rw [List.take_left, written.readInt_eq] at isRead
    cases isRead
    exact ⟨rfl, rfl⟩
  · have string : stringLitRule.Reads (Readable rules) _ _ _ _ _ := Readable.reads string
    obtain ⟨count, _, _, found, -⟩ := literalNode_reads string
    cases noString.symm.trans found
  · have char : charLitRule.Reads (Readable rules) _ _ _ _ _ := Readable.reads char
    obtain ⟨count, _, _, found, -⟩ := literalNode_reads char
    cases noChar.symm.trans found
  · obtain ⟨make, between, mapped, -⟩ := reads_node_iff.mp bool
    obtain ⟨_, ⟨count, found, -⟩, -⟩ := reads_map_iff.mp mapped
    cases noBool.symm.trans found

theorem denotes (written : WrittenInteger) : written.Denotes where
  accepted := fun {_} apart call budget offset memo => written.accepted apart call budget offset memo
  reads := fun {_ _ _ _ _} readable => written.reads readable

/-- However two integers are written, they are taken for what their digits denote, and they are the
same code exactly if that is the same number. -/
theorem integers_denote (left right : WrittenInteger) :
    left.Denotes ∧ right.Denotes ∧ ∀ comparison leftOrigin rightOrigin,
      Comparison.sameExpr comparison (left.expr leftOrigin) (right.expr rightOrigin) = true ↔
        left.value = right.value := by
  refine ⟨left.denotes, right.denotes, fun comparison leftOrigin rightOrigin => ?_⟩
  rw [Comparison.sameExpr, Comparison.sameNode]
  simp [expr, Node.className, Comparison.hasEffect, Comparison.identity?]

end WrittenInteger

end DrainLint.Grammar
