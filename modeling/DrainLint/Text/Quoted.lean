import DrainLint.Text.Printable

/-! # Quoted text

How a text is shown between quotes: single quotes, or double quotes where the text has a single
quote and no double quote.  What has no printed form is written as an escape.
-/

namespace DrainLint.Text

def hexPadded (width n : Nat) : List Char :=
  let digits := Nat.toDigits 16 n
  List.replicate (width - digits.length) '0' ++ digits

def quotedPoint (quote : Char) (point : Nat) : List Char :=
  if point = '\\'.toNat ∨ point = quote.toNat then ['\\', Char.ofNat point]
  else if point = 0xA then ['\\', 'n']
  else if point = 0xD then ['\\', 'r']
  else if point = 0x9 then ['\\', 't']
  else if isPrintable point then [Char.ofNat point]
  else if point < 0x100 then '\\' :: 'x' :: hexPadded 2 point
  else if point < 0x10000 then '\\' :: 'u' :: hexPadded 4 point
  else '\\' :: 'U' :: hexPadded 8 point

def quoteFor (points : List Nat) : Char :=
  if points.contains '\''.toNat && !points.contains '"'.toNat then '"' else '\''

def quotedPoints (points : List Nat) : String :=
  let quote := quoteFor points
  String.ofList (quote :: points.flatMap (quotedPoint quote) ++ [quote])

def quotedChars (cs : List Char) : String := quotedPoints (cs.map Char.toNat)

def quoted (s : String) : String := quotedChars s.toList

end DrainLint.Text
