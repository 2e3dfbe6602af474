import DrainLint.Text.Digit
import Mathlib.Data.Bool.AllAny
import Mathlib.Data.Nat.Digits.Defs

/-! # Numerals

The number that a row of digits denotes in a base, told by the places of the digits, and that it is the
number that is read from them.

- `digit?`, `isDigitOf`: the digits and their values, letters in either case;
- `denoted`: what a row of digits denotes in a base;
- `ofDigits_eq`, `hexDigit?_eq_digit?`: digits are read as what they are, and rows of them as well;
- `denoted_lt`: a row of digits denotes no more than its length allows.
-/

namespace DrainLint.Text

def lowerDigits : List Char := "0123456789abcdef".toList

def upperDigits : List Char := "0123456789ABCDEF".toList

/-- The value of a digit is its place in the row of the digits. -/
def digit? (c : Char) : Option Nat := (lowerDigits.idxOf? c).or (upperDigits.idxOf? c)

def isDigitOf (base : Nat) (c : Char) : Bool := (digit? c).any (· < base)

/-- The number that digits denote in a base, the most significant digit first.  What is no digit does
not count. -/
def denoted (base : Nat) (cs : List Char) : Nat := Nat.ofDigits base (cs.filterMap digit?).reverse

theorem ofDigits_eq (base : Nat) (digits : List Nat) :
    ofDigits base digits = Nat.ofDigits base digits.reverse := by
  rw [Nat.ofDigits_eq_foldr, List.foldr_reverse]
  exact congrArg (digits.foldl · 0) (funext₂ fun value digit => Nat.add_comm (base * value) digit)

variable {base : Nat} {c : Char}

theorem mem_digits (isDigit : isDigitOf base c = true) : c ∈ lowerDigits ++ upperDigits := by
  have known := Option.isSome_of_any isDigit
  rwa [digit?, Option.isSome_or, Bool.or_eq_true, List.isSome_idxOf?, List.isSome_idxOf?,
    ← List.mem_append] at known

/-- What holds of all digits of the rows holds of every digit.  The rows are gone through and not the
characters, of which there are too many. -/
theorem forall_digit {p : Char → Prop} [DecidablePred p]
    (listed : (lowerDigits ++ upperDigits).all (p ·) = true) (isDigit : isDigitOf base c = true) :
    p c :=
  List.all_iff_forall_prop.mp listed c (mem_digits isDigit)

theorem hexDigit?_eq_digit? (isDigit : isDigitOf base c = true) : hexDigit? c = digit? c :=
  forall_digit (p := fun c => hexDigit? c = digit? c) (by decide) isDigit

theorem digit?_eq_some (isDigit : isDigitOf base c = true) :
    ∃ value, digit? c = some value ∧ value < base := by
  obtain ⟨value, found, less⟩ := (Option.any_eq_true _ _).mp isDigit
  exact ⟨value, found, of_decide_eq_true less⟩

theorem denoted_lt {cs : List Char} (several : 1 < base)
    (areDigits : ∀ c ∈ cs, isDigitOf base c = true) : denoted base cs < base ^ cs.length := by
  have values : ∀ value ∈ (cs.filterMap digit?).reverse, value < base := by
    intro value listed
    obtain ⟨c, member, found⟩ := List.mem_filterMap.mp (List.mem_reverse.mp listed)
    obtain ⟨value', found', less⟩ := digit?_eq_some (areDigits c member)
    rwa [Option.some.inj (found.symm.trans found')]
  refine (Nat.ofDigits_lt_base_pow_length several values).trans_le ?_
  rw [List.length_reverse]
  exact Nat.pow_le_pow_right (Nat.zero_lt_of_lt several) (List.length_filterMap_le _ _)

end DrainLint.Text
