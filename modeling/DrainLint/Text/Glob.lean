/-! # Patterns of file names

Patterns in which a star stands for any text, a question mark for any character, and a bracket for
one character of a set.

- `Glob.parse`: the parts of a pattern;
- `Glob.matchesAll`: whether parts match a whole text.
-/

namespace DrainLint.Text

namespace Glob

/-- A part of a pattern.  A set is a list of closed ranges, and the excluding set has what is in
none of them. -/
inductive Part where
  | anyText
  | anyChar
  | char (c : Char)
  | oneOf (excluding : Bool) (ranges : List (Char × Char))
  deriving DecidableEq

def Part.accepts (part : Part) (c : Char) : Bool :=
  match part with
  | anyText => false
  | anyChar => true
  | char expected => c == expected
  | oneOf excluding ranges =>
    (ranges.any fun (low, high) => low ≤ c && c ≤ high) != excluding

/-- Whether an entry of a row or a later one holds, for each entry. -/
def orLater (row : List Bool) : List Bool :=
  row.foldr (fun here later => (here || later.headD false) :: later) []

/-- For each rest of a text, the whole text first and the empty one last, whether a part and what
follows it match the rest, from the same about what follows the part. -/
def Part.extendRow (part : Part) (cs : List Char) (row : List Bool) : List Bool :=
  match part with
  | anyText => orLater row
  | part => List.zipWith (fun c later => part.accepts c && later) cs (row.drop 1) ++ [false]

/-- For each rest of a text, the whole text first and the empty one last, whether parts match it. -/
def matchRow : List Part → List Char → List Bool
  | [], cs => cs.map (fun _ => false) ++ [true]
  | part :: parts, cs => part.extendRow cs (matchRow parts cs)

def matchesAll (parts : List Part) (cs : List Char) : Bool := (matchRow parts cs).headD false

theorem orLater_cons (here : Bool) (row : List Bool) :
    orLater (here :: row) = (here || (orLater row).headD false) :: orLater row := rfl

@[simp]
theorem length_orLater (row : List Bool) : (orLater row).length = row.length := by
  induction row with
  | nil => rfl
  | cons here row ih => simp [orLater_cons, ih]

@[simp]
theorem length_matchRow (parts : List Part) (cs : List Char) :
    (matchRow parts cs).length = cs.length + 1 := by
  induction parts with
  | nil => simp [matchRow]
  | cons part parts ih => cases part <;> simp [matchRow, Part.extendRow, ih]

/-- What the row of a text says about the rests behind its first character is their own row. -/
theorem matchRow_cons (parts : List Part) (c : Char) (cs : List Char) :
    matchRow parts (c :: cs) = matchesAll parts (c :: cs) :: matchRow parts cs := by
  suffices tail : (matchRow parts (c :: cs)).drop 1 = matchRow parts cs by
    have length := length_matchRow parts (c :: cs)
    rw [← tail, matchesAll]
    cases row : matchRow parts (c :: cs) with
    | nil => simp [row] at length
    | cons here later => rfl
  induction parts with
  | nil => rfl
  | cons part parts ih =>
    have length := length_matchRow parts (c :: cs)
    have shorter := length_matchRow parts cs
    simp only [matchRow, ← ih] at shorter ⊢
    cases row : matchRow parts (c :: cs) with
    | nil => simp [row] at length
    | cons here later =>
      rw [row] at shorter
      cases later with
      | nil => simp at shorter
      | cons next later => cases part <;> simp [Part.extendRow, orLater_cons]

theorem matchesAll_nil (cs : List Char) : matchesAll [] cs = cs.isEmpty := by
  cases cs <;> rfl

theorem matchesAll_anyText_nil (parts : List Part) :
    matchesAll (.anyText :: parts) [] = matchesAll parts [] := by
  have length := length_matchRow parts []
  simp only [matchesAll, matchRow, Part.extendRow]
  match matchRow parts [], length with
  | [here], _ => simp [orLater]

/-- A star matches nothing, or one character and what a star matches after it. -/
theorem matchesAll_anyText_cons (parts : List Part) (c : Char) (cs : List Char) :
    matchesAll (.anyText :: parts) (c :: cs) =
      (matchesAll parts (c :: cs) || matchesAll (.anyText :: parts) cs) := by
  conv => lhs; rw [matchesAll, matchRow, matchRow_cons]
  rfl

theorem matchesAll_cons (part : Part) (isOne : part ≠ .anyText) (parts : List Part) (c : Char)
    (cs : List Char) :
    matchesAll (part :: parts) (c :: cs) = (part.accepts c && matchesAll parts cs) := by
  have length := length_matchRow parts cs
  conv => lhs; rw [matchesAll, matchRow, matchRow_cons]
  cases row : matchRow parts cs with
  | nil => simp [row] at length
  | cons here later => cases part <;> simp_all [Part.extendRow, matchesAll]

/-! ## Sets -/

/-- The text before a hyphen that makes a range, and the text after it: the first hyphen after so
many characters. -/
def splitAtHyphen? (least : Nat) (cs : List Char) : Option (List Char × List Char) :=
  match (cs.drop least).dropWhile (· != '-') with
  | [] => none
  | _ :: rest => some (cs.take least ++ (cs.drop least).takeWhile (· != '-'), rest)

/-- The pieces of a set between the hyphens that make ranges: a range goes from the last character
of a piece to the first one of the next piece.  A hyphen at the end makes no range.  The budget is a
bound on the number of characters. -/
def hyphenPieces : Nat → Nat → List Char → List (List Char)
  | 0, _, cs => [cs]
  | budget + 1, least, cs =>
    match splitAtHyphen? least cs with
    | none => [cs]
    | some (piece, []) => [piece ++ ['-']]
    | some (piece, rest) => piece :: hyphenPieces budget 2 rest

/-- Joins the pieces of ranges whose ends are in the wrong order, from the last on; such a range has
no characters. -/
def joinEmptyRanges : List (List Char) → List (List Char)
  | [] => []
  | piece :: pieces =>
    match joinEmptyRanges pieces with
    | [] => [piece]
    | next :: later =>
      match piece.getLast?, next.head? with
      | some low, some high =>
        if high < low then (piece.dropLast ++ next.drop 1) :: later else piece :: next :: later
      | _, _ => piece :: next :: later

def singles (cs : List Char) : List (Char × Char) := cs.map fun c => (c, c)

/-- The ranges of a piece and the later ones: one between each two neighbours, and one for each
other character. -/
def rangesFrom (piece : List Char) : List (List Char) → List (Char × Char)
  | [] => singles piece
  | next :: later =>
    match piece.getLast?, next.head? with
    | some low, some high =>
      singles piece.dropLast ++ (low, high) :: rangesFrom (next.drop 1) later
    | _, _ => singles piece ++ rangesFrom next later

/-- The pieces of a set with the mark of an excluding set in front of the first one. -/
def setPieces : List Char → List (List Char)
  | '!' :: body =>
    match hyphenPieces body.length 1 body with
    | [] => [['!']]
    | piece :: pieces => ('!' :: piece) :: pieces
  | body => hyphenPieces body.length 1 body

/-- The part that a set is, from the text between its brackets. -/
def setPart (body : List Char) : Part :=
  match joinEmptyRanges (setPieces body) with
  | [] => .oneOf false []
  | ('!' :: piece) :: pieces => .oneOf true (rangesFrom piece pieces)
  | piece :: pieces => .oneOf false (rangesFrom piece pieces)

/-- The text of a set and what follows its closing bracket; a bracket at the front, or after the
mark of an excluding set, belongs to the set. -/
def splitSet? (cs : List Char) : Option (List Char × List Char) :=
  let (mark, cs) := if cs.head? = some '!' then (['!'], cs.drop 1) else ([], cs)
  let (bracket, cs) := if cs.head? = some ']' then ([']'], cs.drop 1) else ([], cs)
  match cs.span (· != ']') with
  | (_, []) => none
  | (body, _ :: rest) => some (mark ++ bracket ++ body, rest)

/-- The parts of a pattern; the budget is a bound on its length. -/
def parseWithin : Nat → List Char → List Part
  | 0, _ => []
  | _, [] => []
  | budget + 1, c :: rest =>
    if c = '*' then .anyText :: parseWithin budget rest
    else if c = '?' then .anyChar :: parseWithin budget rest
    else if c = '[' then
      match splitSet? rest with
      | none => .char '[' :: parseWithin budget rest
      | some (body, rest) => setPart body :: parseWithin budget rest
    else .char c :: parseWithin budget rest

/-- The parts of a pattern; a bracket without its closing one stands for itself. -/
def parse (pattern : List Char) : List Part := parseWithin pattern.length pattern

end Glob

def matchesGlob (pattern text : String) : Bool :=
  Glob.matchesAll (Glob.parse pattern.toList) text.toList

end DrainLint.Text
