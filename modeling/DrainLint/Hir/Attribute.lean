import DrainLint.Hir.Basic
import DrainLint.Text.Blank

/-! # Attributes

What an attribute says.

- `Attribute.body`: the text between its brackets;
- `Attribute.lintsAllowed`: the lints that it allows.
-/

namespace DrainLint.Hir.Attribute

open Text

/-- Why an attribute has no body. -/
inductive BodyFault where
  | bracketMissing
  deriving DecidableEq

def BodyFault.message : BodyFault → String
  | bracketMissing => "substring not found"

def afterFirst? (c : Char) (cs : List Char) : Option (List Char) :=
  match cs.dropWhile (· != c) with
  | [] => none
  | _ :: rest => some rest

/-- The text before the last occurrence of a character; empty where it does not occur. -/
def beforeLast (c : Char) (cs : List Char) : List Char :=
  ((cs.reverse.dropWhile (· != c)).drop 1).reverse

/-- The text between the first opening and the last closing bracket, without spaces around it. -/
def body (attr : Attribute) : Except BodyFault (List Char) :=
  match afterFirst? '[' attr.text with
  | none => .error .bracketMissing
  | some rest =>
    if attr.text.contains ']' then .ok (trim (beforeLast ']' rest)) else .error .bracketMissing

def afterWord? (word : String) (cs : List Char) : Option (List Char) :=
  if word.toList.isPrefixOf cs then some (cs.drop word.length) else none

def lintArguments? (body : List Char) : Option (List Char) := do
  let rest ← (afterWord? "allow" body).orElse fun _ => afterWord? "expect" body
  match rest.dropWhile isSpace with
  | '(' :: arguments => if arguments.getLast? = some ')' then some arguments.dropLast else none
  | _ => none

def lintTools : List String := ["clippy", "poplint"]

/-- The name of a lint without its tool, if the tool is known. -/
def lintName? (written : List Char) : Option String :=
  lintTools.findSome? fun tool => do
    let name ← afterWord? (tool ++ "::") (trim written)
    if name.isEmpty then none else some (String.ofList (trim name))

/-- The lints that an attribute allows or expects, without the names of their tools. -/
def lintsAllowed (attr : Attribute) : List String :=
  match attr.body with
  | .error _ => []
  | .ok body =>
    match lintArguments? body with
    | none => []
    | some arguments => (splitOn ',' arguments).filterMap lintName?

end DrainLint.Hir.Attribute
