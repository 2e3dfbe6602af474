/-! # Digits

Sets of code points, decimal digits of every script and the value of a digit in a base.

- `CharSet`: a set of code points as an ascending list of closed ranges;
- `decimalDigit?`: the value of a decimal digit of any script;
- `isDigit`: the decimal digits and those that are written apart.
-/

namespace DrainLint.Text

/-! ## Sets of code points -/

/-- Closed ranges of code points, ascending and apart from each other. -/
abbrev CharSet := List (Nat × Nat)

/-- Membership; the search stops at the first range that starts above the code point. -/
def CharSet.contains : CharSet → Nat → Bool
  | [], _ => false
  | (low, high) :: rest, c => low ≤ c && (c ≤ high || CharSet.contains rest c)

/-! ## Digits -/

/-- The zeros of the scripts with decimal digits; the digits one to nine follow each. -/
def digitZeros : List Nat :=
  [0x30, 0x660, 0x6F0, 0x7C0, 0x966, 0x9E6, 0xA66, 0xAE6, 0xB66, 0xBE6, 0xC66, 0xCE6, 0xD66, 0xDE6,
    0xE50, 0xED0, 0xF20, 0x1040, 0x1090, 0x17E0, 0x1810, 0x1946, 0x19D0, 0x1A80, 0x1A90, 0x1B50,
    0x1BB0, 0x1C40, 0x1C50, 0xA620, 0xA8D0, 0xA900, 0xA9D0, 0xA9F0, 0xAA50, 0xABF0, 0xFF10, 0x104A0,
    0x10D30, 0x11066, 0x110F0, 0x11136, 0x111D0, 0x112F0, 0x11450, 0x114D0, 0x11650, 0x116C0,
    0x11730, 0x118E0, 0x11950, 0x11C50, 0x11D50, 0x11DA0, 0x16A60, 0x16AC0, 0x16B50, 0x1D7CE,
    0x1D7D8, 0x1D7E2, 0x1D7EC, 0x1D7F6, 0x1E140, 0x1E2F0, 0x1E950, 0x1FBF0]

def decimalDigit? (c : Char) : Option Nat :=
  (digitZeros.find? fun start => start ≤ c.toNat && c.toNat ≤ start + 9).map (c.toNat - ·)

/-- Ranges of the digits that are written apart, such as raised, lowered and circled ones, and have
no place in a number of several digits; ascending. -/
def singleDigitRanges : CharSet :=
  [(0xB2, 0xB3), (0xB9, 0xB9), (0x1369, 0x1371), (0x19DA, 0x19DA), (0x2070, 0x2070),
    (0x2074, 0x2079), (0x2080, 0x2089), (0x2460, 0x2468), (0x2474, 0x247C), (0x2488, 0x2490),
    (0x24EA, 0x24EA), (0x24F5, 0x24FD), (0x24FF, 0x24FF), (0x2776, 0x277E), (0x2780, 0x2788),
    (0x278A, 0x2792), (0x10A40, 0x10A43), (0x10E60, 0x10E68), (0x11052, 0x1105A),
    (0x1F100, 0x1F10A)]

def isDigit (c : Char) : Bool :=
  (decimalDigit? c).isSome || singleDigitRanges.contains c.toNat

/-- The value of a hexadecimal digit: a decimal digit of any script or a letter from `a` to `f`. -/
def hexDigit? (c : Char) : Option Nat :=
  if 'a' ≤ c ∧ c ≤ 'f' then some (c.toNat - 'a'.toNat + 10)
  else if 'A' ≤ c ∧ c ≤ 'F' then some (c.toNat - 'A'.toNat + 10)
  else decimalDigit? c

/-- The number that a list of digit values denotes, most significant digit first. -/
def ofDigits (base : Nat) (digits : List Nat) : Nat :=
  digits.foldl (fun value digit => base * value + digit) 0

def maxDecimalDigits : Nat := 4300

def isAsciiDigit (c : Char) : Bool := '0' ≤ c && c ≤ '9'

def isAsciiHexDigit (c : Char) : Bool :=
  isAsciiDigit c || ('a' ≤ c && c ≤ 'f') || ('A' ≤ c && c ≤ 'F')

end DrainLint.Text
