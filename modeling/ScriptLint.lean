import ScriptLint.Command.Execute
import ScriptLint.Command.Options
import ScriptLint.Config.Basic
import ScriptLint.Config.Error
import ScriptLint.Config.Registry
import ScriptLint.Config.Severity
import ScriptLint.Discovery
import ScriptLint.Sweep
import ScriptLint.Disk.Basic
import ScriptLint.Disk.RealPath
import ScriptLint.Engine
import ScriptLint.Failure
import ScriptLint.Finding
import ScriptLint.Finding.Draft
import ScriptLint.Fixing.Apply
import ScriptLint.Fixing.Select
import ScriptLint.Json.Literal
import ScriptLint.Json.Parser
import ScriptLint.Json.Printer
import ScriptLint.Json.Value
import ScriptLint.Keyed
import ScriptLint.Main
import ScriptLint.Number.Binary64
import ScriptLint.Number.Shortest
import ScriptLint.Path
import ScriptLint.Pattern.Basic
import ScriptLint.Pattern.Parser
import ScriptLint.Proofs.Calls
import ScriptLint.Proofs.Fixing
import ScriptLint.Proofs.Isolation
import ScriptLint.Proofs.RegistrationOrder
import ScriptLint.Proofs.Registry
import ScriptLint.Proofs.Rules.Capture
import ScriptLint.Proofs.Rules.LetFix
import ScriptLint.Proofs.Scope.Binding
import ScriptLint.Proofs.Scope.Declaration
import ScriptLint.Proofs.Scope.LetRewrite
import ScriptLint.Proofs.Scope.Moving
import ScriptLint.Proofs.Scope.Rekind
import ScriptLint.Proofs.Scope.Table
import ScriptLint.Proofs.Selection
import ScriptLint.Proofs.Sorting
import ScriptLint.Proofs.Text.Utf8
import ScriptLint.Proofs.Tree.Rekind
import ScriptLint.Proofs.Tree.Walk
import ScriptLint.Report
import ScriptLint.Report.CatalogTable
import ScriptLint.Report.Console
import ScriptLint.Report.Layout
import ScriptLint.Report.Markup
import ScriptLint.Report.Record
import ScriptLint.Report.Style
import ScriptLint.Rule.Basic
import ScriptLint.Rule.Declared
import ScriptLint.Rule.Options
import ScriptLint.Rules.Calls
import ScriptLint.Rules.Catalog
import ScriptLint.Rules.Comparisons
import ScriptLint.Rules.Conditions
import ScriptLint.Rules.ControlFlow
import ScriptLint.Rules.Globals
import ScriptLint.Rules.Members
import ScriptLint.Rules.Semicolons
import ScriptLint.Rules.UnusedVariables
import ScriptLint.Rules.VarDeclarations
import ScriptLint.Run
import ScriptLint.Scope.Declaration
import ScriptLint.Scope.Kinds
import ScriptLint.Scope.Reference
import ScriptLint.Scope.Table
import ScriptLint.Session
import ScriptLint.Severity
import ScriptLint.SortKey
import ScriptLint.Source.Basic
import ScriptLint.Source.ParseError
import ScriptLint.Span
import ScriptLint.Text.Bisect
import ScriptLint.Text.Blank
import ScriptLint.Text.Case
import ScriptLint.Text.CharacterNames
import ScriptLint.Text.Digits
import ScriptLint.Text.Emoji
import ScriptLint.Text.Hex
import ScriptLint.Text.Identifiers
import ScriptLint.Text.Letters
import ScriptLint.Text.Lines
import ScriptLint.Text.NameTable
import ScriptLint.Text.Printable
import ScriptLint.Text.Quoted
import ScriptLint.Text.Ranges
import ScriptLint.Text.Split
import ScriptLint.Text.Utf8
import ScriptLint.Text.Width
import ScriptLint.Text.Wrapping
import ScriptLint.Tree.Node
import ScriptLint.Tree.Parsed
import ScriptLint.Workspace
import ScriptLint.Proofs.Scope.Resolution
import ScriptLint.Pool
import ScriptLint.Proofs.Disk.Writing
import ScriptLint.Proofs.Disk.RealPath
import ScriptLint.Proofs.Run.Saving
import ScriptLint.Proofs.Run.Pool
import ScriptLint.Proofs.Discovery
import ScriptLint.Proofs.Path
import ScriptLint.Proofs.Report
import ScriptLint.Proofs.Run.Order
import ScriptLint.Proofs.Run.Again
import ScriptLint.Proofs.Run.Cancelling
import ScriptLint.Proofs.Rules.Labels
import ScriptLint.Proofs.Settled
import ScriptLint.Proofs.Tree.Tour
import ScriptLint.Proofs.Interpreter
import ScriptLint.Proofs.Text.Boundary
import ScriptLint.Proofs.Splicing
import ScriptLint.Proofs.Tree.Nesting
import ScriptLint.Proofs.Rules.Reports
import ScriptLint.Proofs.Rules.Rescoping
import ScriptLint.Proofs.Rules.Options
import ScriptLint.Proofs.Rules.Safety
import ScriptLint.Proofs.Rules.Encoding
import ScriptLint.Proofs.Config.BreakingOff
import ScriptLint.Proofs.Command.Setup
import ScriptLint.Proofs.Severity.Outline
import ScriptLint.Proofs.Severity.Analysis
import ScriptLint.Proofs.Rules.Blindness
import ScriptLint.Proofs.Registry.History
import ScriptLint.Proofs.Scope.Invariant
import ScriptLint.Proofs.Scope.Bookkeeping
import ScriptLint.Proofs.Scope.Representation
import ScriptLint.Proofs.Text.Decoding
import ScriptLint.Proofs.Accounts
import ScriptLint.Proofs.Frame
import ScriptLint.Proofs.Rules.Exports
import ScriptLint.Proofs.Rules.Conditions
import ScriptLint.Proofs.Text.Positions
import ScriptLint.Proofs.Text.Wrapping
import ScriptLint.Proofs.Report.Layout
import ScriptLint.Proofs.Report.Markup
import ScriptLint.Proofs.Report.Console
import ScriptLint.Proofs.Text.Undecodable
import ScriptLint.Proofs.Source.Opening
import ScriptLint.Proofs.Tree.Problems
import ScriptLint.Proofs.Discovery.Reached
import ScriptLint.Proofs.Discovery.Sweep
import ScriptLint.Proofs.Config.Overriding
import ScriptLint.Proofs.Rules.Filtering
import ScriptLint.Proofs.Rules.Restricted
import ScriptLint.Proofs.Rules.Blanks
import ScriptLint.Proofs.Config.Shorthands
import ScriptLint.Proofs.Json.Grammar
import ScriptLint.Proofs.Json.Printing
import ScriptLint.Proofs.Report.Records
import ScriptLint.Proofs.Tree.Tokens
import ScriptLint.Proofs.Tree.Listing
import ScriptLint.Tree.Building
import ScriptLint.Proofs.Tree.Building
