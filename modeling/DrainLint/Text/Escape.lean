import DrainLint.Hir.Build
import DrainLint.Text.Blank
import DrainLint.Text.Digit

/-! # Escapes

The code points that the body of a string or character literal denotes.

- `readHex`: hexadecimal numbers with blanks, a sign and underscores;
- `codePoint`: a number as a code point;
- `decodeEscapes`: the body of a literal with its escapes resolved.
-/

namespace DrainLint.Text

open Hir (LiteralFault)

def readDigits (digit? : Char → Option Nat) : List Char → Option (List Nat)
  | [] => none
  | [c] => (digit? c).map ([·])
  | c :: '_' :: rest => do
    let digit ← digit? c
    let digits ← readDigits digit? rest
    return digit :: digits
  | c :: rest => do
    let digit ← digit? c
    let digits ← readDigits digit? rest
    return digit :: digits

/-- A hexadecimal number without its sign: a mark of the base may come first, with or without an
underscore after it. -/
def readHexMagnitude (cs : List Char) : Option Nat :=
  let digits :=
    match cs with
    | z :: x :: rest =>
      if decimalDigit? z = some 0 ∧ (x = 'x' ∨ x = 'X') then
        match rest with
        | '_' :: rest => rest
        | _ => rest
      else cs
    | _ => cs
  (readDigits hexDigit? digits).map (ofDigits 16)

/-- The text without the blanks at both ends; the information separators are no blanks here. -/
def trimBlanks (cs : List Char) : List Char :=
  ((cs.dropWhile isBlank).reverse.dropWhile isBlank).reverse

/-- A hexadecimal number between blanks, with or without a sign. -/
def readHex (cs : List Char) : Option Int :=
  match trimBlanks cs with
  | '+' :: rest => (readHexMagnitude rest).map Int.ofNat
  | '-' :: rest => (readHexMagnitude rest).map fun magnitude => -(magnitude : Int)
  | rest => (readHexMagnitude rest).map Int.ofNat

def codePoint (cs : List Char) : Except LiteralFault Nat :=
  match readHex cs with
  | none => .error .malformed
  | some value =>
    if value < -2147483648 ∨ 2147483647 < value then .error .overflow
    else if 0 ≤ value ∧ value ≤ 0x10FFFF then .ok value.toNat
    else .error .malformed

def plainEscape? : Char → Option Nat
  | 'n' => some 0xA
  | 'r' => some 0xD
  | 't' => some 0x9
  | '0' => some 0x0
  | '\\' => some 0x5C
  | '\'' => some 0x27
  | '"' => some 0x22
  | _ => none

/-- The blanks that a backslash before a newline removes from the next lines. -/
def isContinuationBlank (c : Char) : Bool := c == ' ' || c == '\t' || c == '\r' || c == '\n'

/-- The code points that the body of a literal denotes.  A backslash that starts no escape stands
for itself. -/
def decodeEscapes : List Char → Except LiteralFault (List Nat)
  | [] => .ok []
  | '\\' :: c :: rest =>
    match plainEscape? c with
    | some point => return point :: (← decodeEscapes rest)
    | none =>
      if c = 'x' then do
        let point ← codePoint (rest.take 2)
        return point :: (← decodeEscapes (rest.drop 2))
      else if c = 'u' then
        if rest.contains '}' then do
          let point ← codePoint ((rest.takeWhile (· != '}')).drop 1)
          return point :: (← decodeEscapes ((rest.dropWhile (· != '}')).drop 1))
        else .error .malformed
      else if c = '\n' then decodeEscapes (rest.dropWhile isContinuationBlank)
      else return 0x5C :: (← decodeEscapes (c :: rest))
  | c :: rest => return c.toNat :: (← decodeEscapes rest)
termination_by cs => cs.length
decreasing_by
  all_goals simp_wf
  all_goals try omega
  · have shorter := (List.dropWhile_sublist (l := rest) (· != '}')).length_le
    omega
  · have shorter := (List.dropWhile_sublist (l := rest) isContinuationBlank).length_le
    omega

end DrainLint.Text
