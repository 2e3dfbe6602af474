import DrainLint.Text.Quoted

/-! # JSON values

The values that are written as JSON, and their text on one line or indented.

- `JsonValue`: values; the members of an object keep their order;
- `JsonValue.compact`: the text on one line;
- `JsonValue.indented`: the text with two spaces for each level.
-/

namespace DrainLint

inductive JsonValue where
  | null
  | bool (value : Bool)
  | int (value : Int)
  | str (text : String)
  | arr (elems : List JsonValue)
  | obj (members : List (String × JsonValue))

namespace JsonValue

open Text

def units (point : Nat) : List Nat :=
  if point < 0x10000 then [point]
  else [0xD800 + (point - 0x10000) / 0x400, 0xDC00 + (point - 0x10000) % 0x400]

/-- The text of a character in a JSON string; what is not printable ASCII is escaped. -/
def escapedChar (c : Char) : List Char :=
  if c = '"' then ['\\', '"']
  else if c = '\\' then ['\\', '\\']
  else if c = '\n' then ['\\', 'n']
  else if c = '\r' then ['\\', 'r']
  else if c = '\t' then ['\\', 't']
  else if c.toNat = 8 then ['\\', 'b']
  else if c.toNat = 12 then ['\\', 'f']
  else if ' ' ≤ c ∧ c ≤ '~' then [c]
  else (units c.toNat).flatMap fun unit => '\\' :: 'u' :: hexPadded 4 unit

def stringText (text : String) : String :=
  String.ofList ('"' :: text.toList.flatMap escapedChar ++ ['"'])

mutual

def compact : JsonValue → String
  | null => "null"
  | bool value => if value then "true" else "false"
  | int value => toString value
  | str text => stringText text
  | arr elems => "[" ++ ", ".intercalate (compactAll elems) ++ "]"
  | obj members => "\x7b" ++ ", ".intercalate (compactMembers members) ++ "\x7d"

def compactAll : List JsonValue → List String
  | [] => []
  | value :: values => value.compact :: compactAll values

def compactMembers : List (String × JsonValue) → List String
  | [] => []
  | (name, value) :: members => (stringText name ++ ": " ++ value.compact) :: compactMembers members

end

def newLine (depth : Nat) : String := "\n" ++ String.ofList (List.replicate (2 * depth) ' ')

/-- The parts of a container, each on a line of its own. -/
def bracketed (depth : Nat) (opening closing : String) (parts : List String) : String :=
  if parts.isEmpty then opening ++ closing
  else
    opening ++ newLine (depth + 1) ++ ("," ++ newLine (depth + 1)).intercalate parts ++
      newLine depth ++ closing

mutual

/-- The text of a value at a depth, each part on a line of its own. -/
def indentedAt (depth : Nat) : JsonValue → String
  | arr elems => bracketed depth "[" "]" (indentedAll (depth + 1) elems)
  | obj members => bracketed depth "\x7b" "\x7d" (indentedMembers (depth + 1) members)
  | null => "null"
  | bool value => if value then "true" else "false"
  | int value => toString value
  | str text => stringText text

def indentedAll (depth : Nat) : List JsonValue → List String
  | [] => []
  | value :: values => indentedAt depth value :: indentedAll depth values

def indentedMembers (depth : Nat) : List (String × JsonValue) → List String
  | [] => []
  | (name, value) :: members =>
    (stringText name ++ ": " ++ indentedAt depth value) :: indentedMembers depth members

end

/-- The text of a value, each part on a line of its own. -/
def indented (value : JsonValue) : String := indentedAt 0 value

end JsonValue
end DrainLint
