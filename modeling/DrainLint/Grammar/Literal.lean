import DrainLint.Decimal.Double
import DrainLint.Grammar.Lexeme
import DrainLint.Text.Escape

/-! # Literal values

The value of a literal from its spelling.

- `readInt`: an integer with its type; a decimal has at most 4300 digits;
- `readFloat`: a floating point number with its type;
- `readString`, `readChar`: texts with their escapes resolved.
-/

namespace DrainLint.Grammar

open Hir Text

def withoutUnderscores (cs : List Char) : List Char := cs.filter (· != '_')

/-- The number that the digits of a base denote; there is at least one digit. -/
def readBased (base : Nat) (digits : List Char) : Except LiteralFault Nat :=
  if digits.isEmpty then .error .malformed
  else .ok (ofDigits base (digits.filterMap hexDigit?))

def readIntDigits (cs : List Char) : Except LiteralFault Nat :=
  match withoutUnderscores cs with
  | '0' :: 'x' :: digits => readBased 16 digits
  | '0' :: 'o' :: digits => readBased 8 digits
  | '0' :: 'b' :: digits => readBased 2 digits
  | digits => if maxDecimalDigits < digits.length then .error .malformed else readBased 10 digits

/-- An integer literal: its value and its type. -/
def readInt (cs : List Char) : Except LiteralFault (Nat × String) := do
  let count := (intDigits cs).getD 0
  let value ← readIntDigits (cs.take count)
  return (value, String.ofList (cs.drop count))

/-- The exponent of a floating point number; a mark without digits is no exponent. -/
def readExponent : List Char → Except LiteralFault Int
  | [] => .ok 0
  | _ :: '-' :: digits => (readBased 10 digits).map fun n => -(n : Int)
  | _ :: '+' :: digits => (readBased 10 digits).map Int.ofNat
  | _ :: digits => (readBased 10 digits).map Int.ofNat

/-- A floating point literal: the bits of its value and its type. -/
def readFloat (cs : List Char) : Except LiteralFault (Nat × String) := do
  let suffix := (cs.drop (cs.length - 3))
  let typed := floatSuffixLength suffix = 3 ∧ suffix.length = 3
  let number := withoutUnderscores (if typed then cs.take (cs.length - 3) else cs)
  let whole := number.takeWhile isAsciiDigit
  let rest := number.dropWhile isAsciiDigit
  let fraction :=
    match rest with
    | '.' :: more => more.takeWhile isAsciiDigit
    | _ => []
  let exponent ← readExponent (rest.dropWhile fun c => c == '.' || isAsciiDigit c)
  let mantissa := ofDigits 10 ((whole ++ fraction).filterMap hexDigit?)
  return (Decimal.Double.ofDecimal mantissa (exponent - fraction.length),
    if typed then String.ofList suffix else "")

def betweenQuotes (quote : Char) (cs : List Char) : List Char :=
  ((cs.dropWhile (· != quote)).drop 1).dropLast

/-- A string literal of characters or of bytes; a raw one has no escapes. -/
def readString (cs : List Char) : Except LiteralFault Literal := do
  let isBytes := startsWith (· == 'b') cs
  let afterMark := if isBytes then cs.drop 1 else cs
  let points ←
    if startsWith (· == 'r') afterMark then
      let hashes := lengthWhile (· == '#') (afterMark.drop 1)
      let body := afterMark.drop (hashes + 2)
      Except.ok ((body.take (body.length - (hashes + 1))).map Char.toNat)
    else decodeEscapes (betweenQuotes '"' afterMark)
  return if isBytes then .byteStr points else .str points

/-- A character literal, of a character or of a byte. -/
def readChar (cs : List Char) : Except LiteralFault Literal := do
  let points ← decodeEscapes (betweenQuotes '\'' cs)
  return if startsWith (· == 'b') cs then .byte points else .char points

end DrainLint.Grammar
