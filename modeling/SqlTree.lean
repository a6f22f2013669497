import SqlTree.Bindings
import SqlTree.Cli.Arguments
import SqlTree.Cli.Host
import SqlTree.Cli.Report
import SqlTree.Cli.Run
import SqlTree.Cli.Style
import SqlTree.Compile.Basic
import SqlTree.Compile.Clause
import SqlTree.Compile.Quoting
import SqlTree.Compile.Select
import SqlTree.Compile.Window
import SqlTree.Compile.Write
import SqlTree.Config
import SqlTree.Decimal.Binary64
import SqlTree.Decimal.Notation
import SqlTree.Decimal.Shortest
import SqlTree.Error
import SqlTree.Json.Basic
import SqlTree.Json.Outline
import SqlTree.Json.Parser
import SqlTree.Json.Printer
import SqlTree.Keyword
import SqlTree.Main
import SqlTree.Query.Basic
import SqlTree.Query.Build
import SqlTree.Query.Describe
import SqlTree.Renaming.NameLists
import SqlTree.Renaming.Prefixer
import SqlTree.Renaming.Qualifier
import SqlTree.Renaming.Rules
import SqlTree.Renaming.Visit
import SqlTree.Renaming.Walk
import SqlTree.Statement
import SqlTree.Stored.Choice
import SqlTree.Stored.Decode
import SqlTree.Stored.DecodeError
import SqlTree.Stored.Encode
import SqlTree.Stored.Reader
import SqlTree.Stored.Record
import SqlTree.Text.Blank
import SqlTree.Text.CaseTable
import SqlTree.Text.HiddenTable
import SqlTree.Text.LetterCase
import SqlTree.Text.Quoted
import SqlTree.Text.Ranges
import SqlTree.Text.Split
import SqlTree.Time.Rfc3339
import SqlTree.Time.Timestamp
import SqlTree.Toml.Parser
import SqlTree.Value
import SqlTree.Proofs.Compile.Run
import SqlTree.Proofs.Condition.Blank
import SqlTree.Proofs.Placeholders.Scan
import SqlTree.Proofs.Placeholders.InPlace
import SqlTree.Proofs.Placeholders.Lexemes
import SqlTree.Proofs.Tree.Verbatim
import SqlTree.Proofs.Compile.TwoRuns
import SqlTree.Proofs.Condition.Expression
import SqlTree.Proofs.Condition.Reading
import SqlTree.Proofs.Placeholders.Alignment
import SqlTree.Proofs.Placeholders.Statements
import SqlTree.Proofs.Renaming.Sharing
import SqlTree.Proofs.Values.Settings
import SqlTree.Proofs.Compile.RelatedTexts
import SqlTree.Proofs.Dialects.Agreement
import SqlTree.Proofs.Dialects.OutsideQuotes
import SqlTree.Proofs.Faults.Acceptance
import SqlTree.Proofs.Faults.Basic
import SqlTree.Proofs.Faults.Report
import SqlTree.Proofs.Faults.Statements
import SqlTree.Proofs.Likeness.Basic
import SqlTree.Proofs.Likeness.Compile
import SqlTree.Proofs.Likeness.SameTree
import SqlTree.Proofs.Likeness.Statements
import SqlTree.Proofs.Scope.Prefixing
import SqlTree.Proofs.Scope.Qualifying
import SqlTree.Proofs.Scope.Reads
import SqlTree.Proofs.Scope.Resolution
import SqlTree.Proofs.Tree.Nodes
import SqlTree.Proofs.Renaming.Outcome
import SqlTree.Proofs.Likeness.Identifiers
import SqlTree.Proofs.Sorting.ListedValues
import SqlTree.Proofs.Time.ReadBack
import SqlTree.Proofs.Tree.Scalars
import SqlTree.Proofs.Stored.Leaner
import SqlTree.Proofs.Stored.Records
import SqlTree.Proofs.Stored.Trees
import SqlTree.Proofs.Bindings.Merging
import SqlTree.Proofs.Compile.Appending
import SqlTree.Proofs.Faults.FirstFault
import SqlTree.Proofs.Compile.BoundValues
import SqlTree.Proofs.Condition.Omitted
import SqlTree.Proofs.Rows.Columns
import SqlTree.Proofs.Rows.Inserted
import SqlTree.Proofs.Bindings.Entries
import SqlTree.Proofs.Bindings.Statements
import SqlTree.Proofs.Compile.NamedValues
import SqlTree.Proofs.Identifiers.ReadBack
import SqlTree.Proofs.Condition.Comparison
import SqlTree.Proofs.Comments.Reader
import SqlTree.Proofs.Condition.Comments
import SqlTree.Proofs.Renaming.Composition
import SqlTree.Proofs.Renaming.Prefixes
import SqlTree.Proofs.Building.Calls
import SqlTree.Proofs.Renaming.Explicit
import SqlTree.Proofs.Rows.Targets
