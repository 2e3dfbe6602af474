/-! # Blank characters

Two classes of blank characters and the trimming of text by the wider one.

- `isBlank`: what separates tokens of the source language;
- `isSpace`: `isBlank` with the four information separators, what trimming removes.
-/

namespace DrainLint.Text

/-- White space of every script: what may stand between two tokens. -/
def isBlank (c : Char) : Bool :=
  let n := c.toNat
  (0x9 ≤ n && n ≤ 0xD) || n == 0x20 || n == 0x85 || n == 0xA0 || n == 0x1680 ||
    (0x2000 ≤ n && n ≤ 0x200A) || n == 0x2028 || n == 0x2029 || n == 0x202F || n == 0x205F ||
    n == 0x3000

/-- A blank character or one of the information separators U+001C to U+001F. -/
def isSpace (c : Char) : Bool :=
  isBlank c || (0x1C ≤ c.toNat && c.toNat ≤ 0x1F)

def trimEnd (cs : List Char) : List Char :=
  (cs.reverse.dropWhile isSpace).reverse

def trim (cs : List Char) : List Char :=
  trimEnd (cs.dropWhile isSpace)

def trimString (s : String) : String :=
  String.ofList (trim s.toList)

/-- The parts of a text between separators; there is always at least one part. -/
def splitOn (separator : Char) : List Char → List (List Char)
  | [] => [[]]
  | c :: cs =>
    if c = separator then [] :: splitOn separator cs
    else match splitOn separator cs with
      | [] => [[c]]
      | part :: parts => (c :: part) :: parts

/-- The parts of a comma separated list, trimmed, without the empty ones. -/
def commaParts (s : String) : List String :=
  ((splitOn ',' s.toList).map trim).filterMap fun part =>
    if part.isEmpty then none else some (String.ofList part)

end DrainLint.Text
