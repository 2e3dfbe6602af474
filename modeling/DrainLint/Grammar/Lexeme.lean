import DrainLint.Hir.Basic
import DrainLint.Peg.Basic
import DrainLint.Text.Blank
import DrainLint.Text.Digit
import DrainLint.Text.WordChar

/-! # Lexemes

The words of the source language, each by the length that it takes at the front of a text, and the
operators by what they mean.

- blanks, comments, names, lifetimes and keywords;
- `floatLit`, `intLit`, `stringLit`, `charLit`, `boolLit`: the spellings of literals;
- `binaryOp`, `assignOp`, `unaryMark`, `rangeOp`: operators, each longest first.
-/

namespace DrainLint.Grammar

open Text Hir

def lengthWhile (p : Char → Bool) (cs : List Char) : Nat :=
  go 0 cs
where
  go (count : Nat) : List Char → Nat
    | [] => count
    | c :: rest => if p c then go (count + 1) rest else count

def startsWith (p : Char → Bool) : List Char → Bool
  | [] => false
  | c :: _ => p c

/-! ## Blanks and comments -/

/-- Where a scan for blanks stands. -/
inductive BlankState where
  | outside
  | lineComment
  | blockComment

/-- The scan for blanks: how many characters are read, and how many of them are known to be blank.
A block comment that is never closed is not blank. -/
def blankFrom : BlankState → (read known : Nat) → List Char → Nat
  | _, _, known, [] => known
  | .outside, read, _, '/' :: '/' :: rest => blankFrom .lineComment (read + 2) (read + 2) rest
  | .outside, read, known, '/' :: '*' :: rest => blankFrom .blockComment (read + 2) known rest
  | .outside, read, known, c :: rest =>
    if isBlank c then blankFrom .outside (read + 1) (read + 1) rest else known
  | .lineComment, read, _, c :: rest =>
    blankFrom (if c = '\n' then .outside else .lineComment) (read + 1) (read + 1) rest
  | .blockComment, read, _, '*' :: '/' :: rest => blankFrom .outside (read + 2) (read + 2) rest
  | .blockComment, read, known, _ :: rest => blankFrom .blockComment (read + 1) known rest

def blankLength (cs : List Char) : Nat := blankFrom .outside 0 0 cs

def blockCommentRest : List Char → Option Nat
  | [] => none
  | '*' :: '/' :: _ => some 2
  | _ :: rest => (blockCommentRest rest).map (· + 1)

/-- One comment; a line comment ends before its newline. -/
def comment : List Char → Option Nat
  | '/' :: '/' :: rest => some (2 + lengthWhile (· != '\n') rest)
  | '/' :: '*' :: rest => (blockCommentRest rest).map (2 + ·)
  | _ => none

/-! ## Names and keywords -/

def isNameStart (c : Char) : Bool := c.isAlpha || c == '_'

def isNameRest (c : Char) : Bool := c.isAlphanum || c == '_'

def keywords : List String :=
  ["as", "async", "break", "const", "continue", "dyn", "else", "enum", "extern", "false", "fn",
    "for", "if", "impl", "in", "let", "loop", "match", "mod", "move", "mut", "pub", "ref", "return",
    "static", "struct", "trait", "true", "type", "unsafe", "use", "where", "while"]

/-- The words that no name may be: the keywords and the lone underscore. -/
def reserved : List (List Char) := ['_'] :: keywords.map String.toList

/-- A name: ASCII letters, digits and underscores, unless the whole word is reserved. -/
def identifier : Peg.Scanner String := fun cs =>
  if startsWith isNameStart cs && !reserved.contains (cs.take (lengthWhile isWordChar cs)) then
    let count := lengthWhile isNameRest cs
    some (String.ofList (cs.take count), count)
  else none

/-- A quote with a name that no quote follows; the name gives up its last character to a quote. -/
def lifetime : Peg.Scanner String
  | '\'' :: cs =>
    if startsWith isNameStart cs then
      let count := lengthWhile isNameRest cs
      let kept := if startsWith (· == '\'') (cs.drop count) then count - 1 else count
      if kept = 0 then none else some (String.ofList ('\'' :: cs.take kept), kept + 1)
    else none
  | _ => none

def word (w : List Char) : Peg.Scanner Unit := fun cs =>
  if w.isPrefixOf cs then some ((), w.length) else none

def wholeWord (w : List Char) : Peg.Scanner Unit := fun cs =>
  if w.isPrefixOf cs && !startsWith isWordChar (cs.drop w.length) then some ((), w.length) else none

def wordNotBefore (w : List Char) (p : Char → Bool) : Peg.Scanner Unit := fun cs =>
  if w.isPrefixOf cs && !startsWith p (cs.drop w.length) then some ((), w.length) else none

def position : Peg.Scanner String := fun cs =>
  let count := lengthWhile isAsciiDigit cs
  if count = 0 then none else some (String.ofList (cs.take count), count)

/-! ## Literals -/

def isDigitOrUnderscore (c : Char) : Bool := isAsciiDigit c || c == '_'

/-- Digits and underscores, a digit first. -/
def decimalLength (cs : List Char) : Option Nat :=
  if startsWith isAsciiDigit cs then some (lengthWhile isDigitOrUnderscore cs) else none

/-- The exponent of a floating point number: its mark, a sign, and at least one digit or
underscore. -/
def exponentLength : List Char → Option Nat
  | c :: rest =>
    if c = 'e' ∨ c = 'E' then
      let sign := if startsWith (fun c => c == '+' || c == '-') rest then 1 else 0
      let count := lengthWhile isDigitOrUnderscore (rest.drop sign)
      if count = 0 then none else some (1 + sign + count)
    else none
  | [] => none

def floatSuffixLength (cs : List Char) : Nat :=
  if ['f', '3', '2'].isPrefixOf cs || ['f', '6', '4'].isPrefixOf cs then 3 else 0

/-- A floating point literal: digits with a fraction, an exponent or a type. -/
def floatLit (cs : List Char) : Option Nat := do
  let whole ← decimalLength cs
  let afterWhole := cs.drop whole
  let fraction? : Option Nat :=
    match afterWhole with
    | '.' :: rest => (decimalLength rest).map (· + 1)
    | _ => none
  match fraction? with
  | some fraction =>
    let exponent := (exponentLength (afterWhole.drop fraction)).getD 0
    return whole + fraction + exponent + floatSuffixLength (afterWhole.drop (fraction + exponent))
  | none =>
    match exponentLength afterWhole with
    | some exponent => return whole + exponent + floatSuffixLength (afterWhole.drop exponent)
    | none =>
      let suffix := floatSuffixLength afterWhole
      if suffix = 0 then none else return whole + suffix

/-- The digits of an integer after a mark of its base, if there is one digit or underscore. -/
def basedLength (mark : List Char) (isDigit : Char → Bool) (cs : List Char) : Option Nat :=
  if mark.isPrefixOf cs then
    let count := lengthWhile (fun c => isDigit c || c == '_') (cs.drop mark.length)
    if count = 0 then none else some (mark.length + count)
  else none

def intDigits (cs : List Char) : Option Nat :=
  basedLength ['0', 'x'] isAsciiHexDigit cs
    <|> basedLength ['0', 'o'] (fun c => '0' ≤ c && c ≤ '7') cs
    <|> basedLength ['0', 'b'] (fun c => c == '0' || c == '1') cs
    <|> decimalLength cs

def intWidths : List (List Char) := ["8", "16", "32", "64", "128", "size"].map String.toList

def intSuffixLength : List Char → Nat
  | c :: rest =>
    if c = 'i' ∨ c = 'u' then
      match intWidths.find? (·.isPrefixOf rest) with
      | some width => width.length + 1
      | none => 0
    else 0
  | [] => 0

def intLit (cs : List Char) : Option Nat :=
  (intDigits cs).map fun count => count + intSuffixLength (cs.drop count)

/-- The characters up to the closing quote of a string that is open, where a backslash takes the
next character with it. -/
def quotedRest : List Char → Option Nat
  | [] => none
  | '"' :: _ => some 1
  | '\\' :: _ :: rest => (quotedRest rest).map (· + 2)
  | _ :: rest => (quotedRest rest).map (· + 1)

/-- The characters up to the end of a raw string that is open: a quote with its hash signs. -/
def rawRest (hashes : Nat) : List Char → Option Nat
  | [] => none
  | c :: rest =>
    if c = '"' ∧ rest.take hashes = List.replicate hashes '#' then some (1 + hashes)
    else (rawRest hashes rest).map (· + 1)

def rawStringLit : List Char → Option Nat
  | 'r' :: rest =>
    let hashes := lengthWhile (· == '#') rest
    match rest.drop hashes with
    | '"' :: body => (rawRest hashes body).map (2 + hashes + ·)
    | _ => none
  | _ => none

/-- A string literal, raw or not, of characters or of bytes. -/
def stringLit (cs : List Char) : Option Nat :=
  let mark := if startsWith (· == 'b') cs then 1 else 0
  let plain :=
    match cs.drop mark with
    | '"' :: body => (quotedRest body).map (1 + ·)
    | _ => none
  (rawStringLit (cs.drop mark) <|> plain).map (mark + ·)

def isPlainEscape (c : Char) : Bool :=
  c == 'n' || c == 'r' || c == 't' || c == '0' || c == '\\' || c == '\'' || c == '"'

/-- The one character, or its escape, between the quotes of a character literal. -/
def charBody : List Char → Option Nat
  | '\\' :: c :: rest =>
    if isPlainEscape c then some 2
    else if c = 'x' then
      if lengthWhile isAsciiHexDigit (rest.take 2) = 2 then some 4 else none
    else if c = 'u' then
      match rest with
      | '{' :: digits =>
        let count := lengthWhile isAsciiHexDigit digits
        if 1 ≤ count ∧ count ≤ 6 ∧ startsWith (· == '}') (digits.drop count) then some (count + 4)
        else none
      | _ => none
    else none
  | '\\' :: [] => none
  | c :: _ => if c = '\'' ∨ c = '\n' then none else some 1
  | [] => none

/-- A character literal, of a character or of a byte. -/
def charLit (cs : List Char) : Option Nat :=
  let mark := if startsWith (· == 'b') cs then 1 else 0
  match cs.drop mark with
  | '\'' :: body => do
    let count ← charBody body
    if startsWith (· == '\'') (body.drop count) then return mark + 1 + count + 1 else none
  | _ => none

def boolLit : Peg.Scanner Bool := fun cs =>
  match wholeWord "true".toList cs with
  | some (_, count) => some (true, count)
  | none => (wholeWord "false".toList cs).map fun (_, count) => (false, count)

/-! ## Operators -/

/-- A binary operator that is not the start of an assignment, an arrow or a comment. -/
def binaryOp : Peg.Scanner BinaryOp
  | '|' :: '|' :: _ => some (.or, 2)
  | '&' :: '&' :: _ => some (.and, 2)
  | '=' :: '=' :: _ => some (.eq, 2)
  | '!' :: '=' :: _ => some (.ne, 2)
  | '<' :: '=' :: _ => some (.le, 2)
  | '>' :: '=' :: _ => some (.ge, 2)
  | '<' :: '<' :: rest => if startsWith (· == '=') rest then none else some (.shl, 2)
  | '>' :: '>' :: rest => if startsWith (· == '=') rest then none else some (.shr, 2)
  | '<' :: _ => some (.lt, 1)
  | '>' :: _ => some (.gt, 1)
  | '+' :: rest => if startsWith (· == '=') rest then none else some (.add, 1)
  | '-' :: rest => if startsWith (fun c => c == '=' || c == '>') rest then none else some (.sub, 1)
  | '*' :: rest => if startsWith (· == '=') rest then none else some (.mul, 1)
  | '/' :: rest =>
    if startsWith (fun c => c == '=' || c == '/' || c == '*') rest then none else some (.div, 1)
  | '%' :: rest => if startsWith (· == '=') rest then none else some (.rem, 1)
  | '&' :: rest => if startsWith (· == '=') rest then none else some (.bitAnd, 1)
  | '^' :: rest => if startsWith (· == '=') rest then none else some (.bitXor, 1)
  | '|' :: rest => if startsWith (· == '=') rest then none else some (.bitOr, 1)
  | _ => none

def equals : Peg.Scanner Unit := wordNotBefore ['='] fun c => c == '=' || c == '>'

def assignOp (cs : List Char) : Option (Option BinaryOp × Nat) :=
  let (op, count) : Option BinaryOp × Nat :=
    match cs with
    | '<' :: '<' :: _ => (some .shl, 2)
    | '>' :: '>' :: _ => (some .shr, 2)
    | '+' :: _ => (some .add, 1)
    | '-' :: _ => (some .sub, 1)
    | '*' :: _ => (some .mul, 1)
    | '/' :: _ => (some .div, 1)
    | '%' :: _ => (some .rem, 1)
    | '^' :: _ => (some .bitXor, 1)
    | '&' :: _ => (some .bitAnd, 1)
    | '|' :: _ => (some .bitOr, 1)
    | _ => (none, 0)
  (equals (cs.drop count)).map fun _ => (op, count + 1)

/-- What stands before an operand. -/
inductive UnaryMark where
  | borrow (isMut : Bool)
  | op (op : UnaryOp)

/-- A mark before an operand; between the ampersand and `mut` only plain blanks may stand. -/
def unaryMark : Peg.Scanner UnaryMark
  | '&' :: rest =>
    let blanks := lengthWhile (fun c => c == ' ' || c == '\t' || c == '\r' || c == '\n') rest
    match wholeWord "mut".toList (rest.drop blanks) with
    | some (_, count) => some (.borrow true, 1 + blanks + count)
    | none => some (.borrow false, 1)
  | '*' :: _ => some (.op .deref, 1)
  | '-' :: _ => some (.op .neg, 1)
  | '!' :: _ => some (.op .not, 1)
  | _ => none

/-- The operator of a range, and whether the range has its end. -/
def rangeOp : Peg.Scanner Bool
  | '.' :: '.' :: '=' :: _ => some (true, 3)
  | '.' :: '.' :: _ => some (false, 2)
  | _ => none

def isPlainToken (c : Char) : Bool :=
  !(c == '(' || c == ')' || c == '[' || c == ']' || c == '{' || c == '}' || c == '"' || c == '\'' ||
    c == '/')

def plainTokens : Peg.Scanner Unit := fun cs =>
  let count := lengthWhile isPlainToken cs
  if count = 0 then none else some ((), count)

end DrainLint.Grammar
