import DrainLint.Diagnostic.Basic
import DrainLint.Hir.Attribute
import DrainLint.Hir.Walk
import DrainLint.Keyed
import DrainLint.Lint.LoopFix
import DrainLint.Text.Alphanumeric
import DrainLint.Text.Glob

/-! # Suppression

Which diagnostics are held back: by a comment on the line or on the line before, by an attribute of
an item around them or of the file, by a pattern of file names, or everywhere.

- `Suppressions`: the rules that are known;
- `commentIds?`: the ids that a suppression comment names;
- `Suppressions.ofFile`: the rules with the comments and attributes of a file;
- `Suppressions.suppresses`, `Suppressions.kept`: the diagnostics that are held back, and the
  others.
-/

namespace DrainLint

open Hir Text

/-- The rules by which diagnostics are held back.  Comments are known by file and line, regions by
file and span; an attribute of a file is kept even where it allows nothing. -/
structure Suppressions where
  comments : List ((String × Nat) × List String) := []
  regions : List (String × Span × List String) := []
  fileAttrs : List (String × List String) := []
  filePatterns : List (String × String) := []
  everywhere : List String := []

namespace Suppressions

/-! ## Comments -/

def isIdChar (c : Char) : Bool := isAlphanumeric c || c == '*'

def isIdListChar (c : Char) : Bool := isIdChar c || c == ',' || isSpace c

/-- The parts of a text between commas and spaces, without the empty ones. -/
def idsOf (cs : List Char) : List String :=
  (splitOn ',' (cs.map fun c => if isSpace c then ',' else c)).filterMap fun part =>
    if part.isEmpty then none else some (String.ofList part)

def idsAfterSlashes? (cs : List Char) : Option (List String) := do
  let rest ← Attribute.afterWord? "poplint-suppress" (cs.dropWhile isSpace)
  if rest.head?.any isSpace then
    let ids := rest.dropWhile isSpace
    if ids.head?.any isIdChar then some (idsOf (ids.takeWhile isIdListChar)) else none
  else none

def commentIds? : List Char → Option (List String)
  | [] => none
  | '/' :: '/' :: rest => (idsAfterSlashes? rest).orElse fun _ => commentIds? ('/' :: rest)
  | _ :: rest => commentIds? rest

/-- The suppression comments of a file, with their lines. -/
def commentsOf (source : SourceFile) : List ((String × Nat) × List String) :=
  (List.range source.lineCount).filterMap fun index =>
    let line : Nat := index + 1
    (commentIds? (source.lineText line)).map fun ids => ((source.name, line), ids)

def addComments (rules : Suppressions) (source : SourceFile) : Suppressions :=
  { rules with comments := rules.comments ++ commentsOf source }

/-! ## Attributes -/

/-- The item that a node is, with the lints that its attributes allow, if they allow any. -/
def allowingItem? : Node → Option (Span × List String)
  | .item item =>
    let names := item.attrs.flatMap Attribute.lintsAllowed
    if names.isEmpty then none else some (item.origin.span, names)
  | _ => none

def addAttributes (rules : Suppressions) (name : String) (crate : Crate) : Suppressions :=
  { rules with
    fileAttrs := rules.fileAttrs ++ crate.attrs.map fun attr => (name, attr.lintsAllowed)
    regions :=
      rules.regions ++ (crate.walk.filterMap allowingItem?).map fun region => (name, region) }

def ofFile (rules : Suppressions) (source : SourceFile) (crate : Crate) : Suppressions :=
  (rules.addComments source).addAttributes source.name crate

def addPattern (rules : Suppressions) (id pattern : String) : Suppressions :=
  { rules with filePatterns := rules.filePatterns ++ [(pattern, id)] }

def addEverywhere (rules : Suppressions) (id : String) : Suppressions :=
  { rules with everywhere := rules.everywhere ++ [id] }

/-! ## Diagnostics -/

/-- Whether ids name an id, or all of them. -/
def covers (ids : List String) (id : String) : Bool := ids.contains id || ids.contains "*"

def lintNames (lint : String) : List String :=
  if lint = Lint.lintName then [Lint.lintName, "manual_while_let_some", "style", "all"] else [lint]

def allows (names : List String) (lint : String) : Bool :=
  names.any fun name => (lintNames lint).contains name

/-- Whether a pattern is a file name, or its end, or matches it. -/
def matchesFile (pattern file : String) : Bool :=
  pattern == file || file.endsWith pattern || matchesGlob pattern file

def suppressedEverywhere (rules : Suppressions) (diagnostic : Diagnostic) : Bool :=
  covers rules.everywhere diagnostic.errorId

def suppressedByComment (rules : Suppressions) (diagnostic : Diagnostic) : Bool :=
  rules.comments.any fun ((file, line), ids) =>
    file == diagnostic.location.file
      && (diagnostic.location.line == line || diagnostic.location.line == line + 1)
      && covers ids diagnostic.errorId

/-- An attribute holds back its lint in the file, or where the span lies in its item. -/
def suppressedByAttribute (rules : Suppressions) (diagnostic : Diagnostic) : Bool :=
  diagnostic.lint != ""
    && ((rules.fileAttrs.any fun (file, names) =>
        file == diagnostic.location.file && allows names diagnostic.lint)
      || (rules.regions.any fun (file, region, names) =>
        file == diagnostic.location.file && diagnostic.span?.any region.contains
          && allows names diagnostic.lint))

def suppressedByPattern (rules : Suppressions) (diagnostic : Diagnostic) : Bool :=
  rules.filePatterns.any fun (pattern, id) =>
    covers [id] diagnostic.errorId && matchesFile pattern diagnostic.location.file

def suppresses (rules : Suppressions) (diagnostic : Diagnostic) : Bool :=
  rules.suppressedEverywhere diagnostic || rules.suppressedByComment diagnostic
    || rules.suppressedByAttribute diagnostic || rules.suppressedByPattern diagnostic

def kept (rules : Suppressions) (diagnostics : List Diagnostic) : List Diagnostic :=
  diagnostics.filter fun diagnostic => !rules.suppresses diagnostic

/-! ## Views -/

/-- Names by key, those of one key together, sorted and each of them once. -/
def merged {α : Type} [BEq α] (entries : List (α × List String)) : List (α × List String) :=
  (entries.map Prod.fst).eraseDups.map fun key =>
    (key, sortedDistinct ((entries.filter fun entry => entry.1 == key).flatMap Prod.snd))

/-- The ids of comments by file and line, sorted. -/
def commentTable (rules : Suppressions) : List ((String × Nat) × List String) :=
  (merged rules.comments).mergeSort fun ((file, line), _) ((file', line'), _) =>
    file < file' || (file == file' && line ≤ line')

end Suppressions
end DrainLint
