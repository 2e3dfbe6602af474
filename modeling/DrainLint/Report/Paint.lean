import DrainLint.Diagnostic.Severity

/-! # Painted text

Text in bold and in colours for a terminal, by escape sequences.

- `Style`: how a text is painted;
- `paint`: the painted text; without colours it is the text itself.
-/

namespace DrainLint

/-- How a text is painted. -/
structure Style where
  colour? : Option Colour := none
  bold : Bool := false
  deriving DecidableEq

def escapeSequence (code : Nat) : String := s!"\x1b[{code}m"

def Style.opening (style : Style) : String :=
  let bold := if style.bold then escapeSequence 1 else ""
  bold ++ (style.colour?.map fun colour => escapeSequence colour.code).getD ""

/-- A text in a style, where colours are on. -/
def paint (coloured : Bool) (style : Style) (text : String) : String :=
  if coloured then style.opening ++ text ++ escapeSequence 0 else text

theorem paint_plain (style : Style) (text : String) : paint false style text = text := rfl

end DrainLint
