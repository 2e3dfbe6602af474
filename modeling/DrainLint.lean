import DrainLint.Checker.Basic
import DrainLint.Checker.DrainLoop
import DrainLint.Checker.Registry
import DrainLint.Checker.Results
import DrainLint.Checker.Runner
import DrainLint.Checker.Samples
import DrainLint.Command.Arguments
import DrainLint.Command.Help
import DrainLint.Command.Request
import DrainLint.Command.Run
import DrainLint.Config
import DrainLint.Decimal.Double
import DrainLint.Decimal.Shortest
import DrainLint.Diagnostic.Basic
import DrainLint.Diagnostic.Severity
import DrainLint.Error
import DrainLint.Files.Name
import DrainLint.Files.Tree
import DrainLint.Fix.Edit
import DrainLint.Fix.Suggestion
import DrainLint.Grammar.Expressions
import DrainLint.Grammar.Items
import DrainLint.Grammar.Lexeme
import DrainLint.Grammar.Literal
import DrainLint.Grammar.Literals
import DrainLint.Grammar.Operators
import DrainLint.Grammar.Patterns
import DrainLint.Grammar.Rule
import DrainLint.Grammar.Table
import DrainLint.Grammar.Types
import DrainLint.Hir.Attribute
import DrainLint.Hir.Basic
import DrainLint.Hir.Build
import DrainLint.Hir.Dump
import DrainLint.Hir.Handlers
import DrainLint.Hir.Item
import DrainLint.Hir.Node
import DrainLint.Hir.SameCode
import DrainLint.Hir.Walk
import DrainLint.Keyed
import DrainLint.Library.Paths
import DrainLint.Lint.Loop
import DrainLint.Lint.LoopFix
import DrainLint.Lint.Match
import DrainLint.Log
import DrainLint.Main
import DrainLint.Parse
import DrainLint.Peg.Basic
import DrainLint.Peg.Run
import DrainLint.Proofs.Checker.Accumulation
import DrainLint.Proofs.Checker.AllowedItems
import DrainLint.Proofs.Checker.Contributions
import DrainLint.Proofs.Checker.Examination
import DrainLint.Proofs.Checker.FaultReports
import DrainLint.Proofs.Checker.Findings
import DrainLint.Proofs.Checker.Isolation
import DrainLint.Proofs.Checker.LoopOrder
import DrainLint.Proofs.Checker.Merging
import DrainLint.Proofs.Command.ExitCodes
import DrainLint.Proofs.Command.Requests
import DrainLint.Proofs.Declarations.Answers
import DrainLint.Proofs.Declarations.Collection
import DrainLint.Proofs.Declarations.Imports
import DrainLint.Proofs.Declarations.Rearrangement
import DrainLint.Proofs.Files.Names
import DrainLint.Proofs.Fix.Collisions
import DrainLint.Proofs.Fix.Deletion
import DrainLint.Proofs.Fix.Landing
import DrainLint.Proofs.Fix.Listings
import DrainLint.Proofs.Fix.Placeholder
import DrainLint.Proofs.Fix.Preview
import DrainLint.Proofs.Fix.Rewriting
import DrainLint.Proofs.Grammar.Blocks
import DrainLint.Proofs.Grammar.Endings
import DrainLint.Proofs.Grammar.Integers
import DrainLint.Proofs.Grammar.Members
import DrainLint.Proofs.Grammar.MembersExpressions
import DrainLint.Proofs.Grammar.MembersItems
import DrainLint.Proofs.Grammar.MembersParts
import DrainLint.Proofs.Grammar.Parentheses
import DrainLint.Proofs.Grammar.PlacedExpressions
import DrainLint.Proofs.Grammar.PlacedItems
import DrainLint.Proofs.Grammar.PlacedOperators
import DrainLint.Proofs.Grammar.PlacedParts
import DrainLint.Proofs.Grammar.Placement
import DrainLint.Proofs.Grammar.Precedence
import DrainLint.Proofs.Grammar.Scanners
import DrainLint.Proofs.Lint.Detection
import DrainLint.Proofs.Lint.Knowledge
import DrainLint.Proofs.Lint.Shape
import DrainLint.Proofs.Peg.Noted
import DrainLint.Proofs.Peg.Readings
import DrainLint.Proofs.Report.Outputs
import DrainLint.Proofs.Report.Reading
import DrainLint.Proofs.Report.Regions
import DrainLint.Proofs.Report.Runs
import DrainLint.Proofs.Report.Views
import DrainLint.Proofs.SameCode.Bare
import DrainLint.Proofs.SameCode.Effects
import DrainLint.Proofs.SameCode.Equivalence
import DrainLint.Proofs.Scoping.Lexical
import DrainLint.Proofs.Scoping.Places
import DrainLint.Proofs.Scoping.Refinement
import DrainLint.Proofs.Scoping.Shadowing
import DrainLint.Proofs.Source.Grid
import DrainLint.Proofs.Source.Lines
import DrainLint.Proofs.Source.Places
import DrainLint.Proofs.Text.Numerals
import DrainLint.Proofs.Text.Spellings
import DrainLint.Proofs.Tree.Code
import DrainLint.Proofs.Tree.Fields
import DrainLint.Proofs.Tree.Forest
import DrainLint.Proofs.Tree.Nesting
import DrainLint.Proofs.Tree.Positions
import DrainLint.Proofs.Tree.SourceOrder
import DrainLint.Proofs.Tree.Traversal
import DrainLint.Proofs.Tree.Walk
import DrainLint.Proofs.Typing.Accounts
import DrainLint.Proofs.Typing.Completeness
import DrainLint.Proofs.Typing.Expansion
import DrainLint.Proofs.Typing.GenericArguments
import DrainLint.Proofs.Typing.Instantiation
import DrainLint.Proofs.Typing.Methods
import DrainLint.Proofs.Typing.Rearranged
import DrainLint.Proofs.Typing.Runs
import DrainLint.Proofs.Typing.Tails
import DrainLint.Proofs.Typing.Written
import DrainLint.Report.Format
import DrainLint.Report.Paint
import DrainLint.Report.Reporter
import DrainLint.Report.Sarif
import DrainLint.Report.Terminal
import DrainLint.Report.Underline
import DrainLint.Report.View
import DrainLint.Source.File
import DrainLint.Source.Reading
import DrainLint.Source.Span
import DrainLint.Suppression
import DrainLint.Text.Alphanumeric
import DrainLint.Text.Blank
import DrainLint.Text.Cased
import DrainLint.Text.Digit
import DrainLint.Text.Escape
import DrainLint.Text.Glob
import DrainLint.Text.JsonValue
import DrainLint.Text.LowerCase
import DrainLint.Text.Printable
import DrainLint.Text.Quoted
import DrainLint.Text.WordChar
import DrainLint.Typing.Declarations
import DrainLint.Typing.Infer
import DrainLint.Typing.LibraryMethods
import DrainLint.Typing.Lowering
import DrainLint.Typing.MethodTable
import DrainLint.Typing.SemTy
import DrainLint.Typing.State
