import DrainLint.Decimal.Shortest
import DrainLint.Grammar.Literal
import DrainLint.Hir.Walk
import DrainLint.Text.Quoted

/-! # Dumps

The indented text of a node and all below it: a line for each node with its number and place, and a
line for each field that is not empty.
-/

namespace DrainLint.Hir

open Text

/-- The only thing that has no text: an integer with too many digits. -/
inductive DumpFault where
  | integerTooLong
  deriving DecidableEq

def DumpFault.message : DumpFault → String
  | integerTooLong =>
    s!"Exceeds the limit ({maxDecimalDigits} digits) for integer string conversion; " ++
      "use sys.set_int_max_str_digits() to increase the limit"

def Literal.text : Literal → Except DumpFault String
  | int value =>
    if Decimal.Double.tenTo maxDecimalDigits ≤ value then .error .integerTooLong
    else .ok (toString value)
  | float bits => .ok (Decimal.render bits)
  | str points | byteStr points | char points | byte points => .ok (quotedPoints points)
  | bool value => .ok (if value then "True" else "False")

def Attribute.shown (attr : Attribute) : String :=
  s!"Attribute(text={quotedChars attr.text}, span={attr.span.text})"

namespace Value

/-- Whether a value is left out of a dump: what is absent, empty, false or zero. -/
def isEmpty : Value → Bool
  | absent => true
  | list values => values.isEmpty
  | text s => s.isEmpty
  | flag b => !b
  | literal (.int n) => n == 0
  | literal (.float bits) => bits == 0
  | literal (.str points) | literal (.byteStr points) | literal (.char points)
  | literal (.byte points) => points.isEmpty
  | literal (.bool b) => !b
  | node _ | symbol _ | span _ | attr _ => false

def isList : Value → Bool
  | list _ => true
  | _ => false

/-- Whether a value is shown on lines of its own: it holds nodes or lists. -/
def isNested : Value → Bool
  | node _ => true
  | list values => !(nodesAll values).isEmpty || values.any isList
  | _ => false

def attributesText (attrs : List Attribute) : String :=
  let texts := attrs.map Attribute.shown
  "(" ++ ", ".intercalate texts ++ (if texts.length = 1 then "," else "") ++ ")"

def scalarText : Value → Except DumpFault String
  | absent => .ok "None"
  | text s => .ok (quoted s)
  | flag b => .ok (if b then "True" else "False")
  | literal l => l.text
  | symbol s => .ok s
  | span s => .ok s.text
  | attr a => .ok (String.ofList a.text)
  | node _ => .ok ""
  | list values =>
    let attrs := values.filterMap fun value => match value with
      | attr a => some a
      | _ => none
    if attrs.isEmpty then
      .ok ("::".intercalate (values.filterMap fun value => match value with
        | text s => some s
        | _ => none))
    else .ok (attributesText attrs)

end Value

def indent (depth : Nat) : String := String.ofList (List.replicate (2 * depth) ' ')

mutual

def dumpNode (depth : Nat) (node : Node) : Except DumpFault (List String) := do
  let head := s!"{indent depth}{node.className} #{node.id} [{node.span.lo}..{node.span.hi})"
  return head :: (← dumpFields depth node.fields)
termination_by (node.weight, 0)
decreasing_by exact Prod.Lex.left _ _ node.fields_weight_lt

def dumpFields (depth : Nat) (fields : List (String × Value)) :
    Except DumpFault (List String) := do
  match fields with
  | [] => return []
  | (name, value) :: rest =>
    let lines ←
      if value.isNested then
        (s!"{indent depth}  {name}:" :: ·) <$> dumpValue (depth + 2) value
      else if value.isEmpty then pure []
      else (fun shown => [s!"{indent depth}  {name}: {shown}"]) <$> value.scalarText
    return lines ++ (← dumpFields depth rest)
termination_by (Value.weightAll (fields.map Prod.snd), sizeOf fields)
decreasing_by
  · exact Node.lex_of_le (by simp [Value.weightAll]) (by simp +arith)
  · exact Node.lex_of_le (by simp [Value.weightAll]) (by simp +arith)

def dumpValue (depth : Nat) (value : Value) : Except DumpFault (List String) := do
  match value with
  | .node n => dumpNode depth n
  | .list values => dumpValues depth values
  | value => return [indent depth ++ (← value.scalarText)]
termination_by (value.weight, sizeOf value)
decreasing_by
  · exact Node.lex_of_le (by simp [Value.weight]) (by simp +arith)
  · exact Node.lex_of_le (by simp [Value.weight]) (by simp)

def dumpValues (depth : Nat) (values : List Value) : Except DumpFault (List String) := do
  match values with
  | [] => return []
  | value :: rest => return (← dumpValue depth value) ++ (← dumpValues depth rest)
termination_by (Value.weightAll values, sizeOf values)
decreasing_by
  · exact Node.lex_of_le (by simp [Value.weightAll]) (by simp +arith)
  · exact Node.lex_of_le (by simp [Value.weightAll]) (by simp +arith)

end

def Crate.dump (crate : Crate) : Except DumpFault (List String) := dumpNode 0 (.crate crate)

end DrainLint.Hir
