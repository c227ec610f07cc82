import LogSelect.Calendar.Date
import LogSelect.Calendar.Timestamp
import LogSelect.Collation
import LogSelect.Datum
import LogSelect.Files.Path
import LogSelect.Files.Source
import LogSelect.Files.Tree
import LogSelect.Json.Read
import LogSelect.Json.Write
import LogSelect.Main
import LogSelect.Number.Arithmetic
import LogSelect.Number.Basic
import LogSelect.Number.Binary64
import LogSelect.Number.Numeral
import LogSelect.Number.Shortest
import LogSelect.Pattern.Basic
import LogSelect.Pattern.CharSet
import LogSelect.Pattern.Match
import LogSelect.Pattern.Read
import LogSelect.Proofs.Calendar.Timestamp
import LogSelect.Proofs.Except
import LogSelect.Proofs.Execution.Correctness
import LogSelect.Proofs.Execution.Counter
import LogSelect.Proofs.Execution.Evaluate
import LogSelect.Proofs.Execution.Labels
import LogSelect.Proofs.Execution.Pages
import LogSelect.Proofs.Execution.Passes
import LogSelect.Proofs.Execution.Phases
import LogSelect.Proofs.Execution.Pulls
import LogSelect.Proofs.Execution.Rearrangement
import LogSelect.Proofs.Execution.Reference
import LogSelect.Proofs.Execution.Safety
import LogSelect.Proofs.Execution.Typing
import LogSelect.Proofs.Execution.Visibility
import LogSelect.Proofs.Grammar.Completeness
import LogSelect.Proofs.Grammar.Compositional
import LogSelect.Proofs.Grammar.Cursor
import LogSelect.Proofs.Grammar.Derivation
import LogSelect.Proofs.Grammar.Earliest
import LogSelect.Proofs.Grammar.Exactness
import LogSelect.Proofs.Grammar.Inside
import LogSelect.Proofs.Grammar.Lookahead
import LogSelect.Proofs.Grammar.Outcome
import LogSelect.Proofs.Grammar.Places
import LogSelect.Proofs.Grammar.Soundness
import LogSelect.Proofs.Grammar.Viability
import LogSelect.Proofs.Grouping.Composition
import LogSelect.Proofs.Grouping.Correctness
import LogSelect.Proofs.Grouping.Draft
import LogSelect.Proofs.Grouping.Segment
import LogSelect.Proofs.Json.Grammar
import LogSelect.Proofs.Json.Names
import LogSelect.Proofs.Json.Numbers
import LogSelect.Proofs.Json.Reading
import LogSelect.Proofs.Json.Written
import LogSelect.Proofs.Number.Nearest
import LogSelect.Proofs.Number.Positional
import LogSelect.Proofs.Number.ReadBack
import LogSelect.Proofs.Number.Text
import LogSelect.Proofs.Order.Comparison
import LogSelect.Proofs.Order.Equality
import LogSelect.Proofs.Order.Exact
import LogSelect.Proofs.Order.Passes
import LogSelect.Proofs.Order.Place
import LogSelect.Proofs.Order.Preorder
import LogSelect.Proofs.Order.Rows
import LogSelect.Proofs.Order.StableSort
import LogSelect.Proofs.Query.Constants
import LogSelect.Proofs.Query.Layout
import LogSelect.Proofs.Query.Renderable
import LogSelect.Proofs.Query.Reports
import LogSelect.Proofs.Query.RoundTrip
import LogSelect.Proofs.Query.Spelling
import LogSelect.Proofs.Query.TextConstants
import LogSelect.Proofs.Schema.Columns
import LogSelect.Proofs.Schema.Definitions
import LogSelect.Proofs.Schema.Saved
import LogSelect.Proofs.Schema.Timestamps
import LogSelect.Proofs.Schema.Typing
import LogSelect.Proofs.Schema.Whole
import LogSelect.Proofs.Shell.Commands
import LogSelect.Proofs.Shell.Conversation
import LogSelect.Proofs.Shell.Objects
import LogSelect.Proofs.Shell.OneShot
import LogSelect.Proofs.Statements.Agreement
import LogSelect.Proofs.Statements.Rendered
import LogSelect.Proofs.Statements.Split
import LogSelect.Proofs.Table.Alignment
import LogSelect.Proofs.Table.Widths
import LogSelect.Proofs.Text.Blank
import LogSelect.Proofs.Text.Folding
import LogSelect.Proofs.Text.Lines
import LogSelect.Proofs.Text.Stretch
import LogSelect.Proofs.Token.CharClass
import LogSelect.Proofs.Token.Cut
import LogSelect.Proofs.Token.Lexeme
import LogSelect.Proofs.Token.Partition
import LogSelect.Proofs.Token.Scan
import LogSelect.Proofs.Token.Step
import LogSelect.Proofs.Token.Words
import LogSelect.Query.Basic
import LogSelect.Query.Error
import LogSelect.Query.Evaluate
import LogSelect.Query.Execute
import LogSelect.Query.Grammar
import LogSelect.Query.Keyword
import LogSelect.Query.Position
import LogSelect.Query.Render
import LogSelect.Query.Statements
import LogSelect.Query.Token
import LogSelect.Query.Walk
import LogSelect.Record
import LogSelect.Row
import LogSelect.Schema.Basic
import LogSelect.Schema.Column
import LogSelect.Schema.Grouping
import LogSelect.Schema.Load
import LogSelect.Schema.Read
import LogSelect.Shell.CommandLine
import LogSelect.Shell.Format
import LogSelect.Shell.LogRows
import LogSelect.Shell.Note
import LogSelect.Shell.Program
import LogSelect.Shell.Session
import LogSelect.Shell.Statement
import LogSelect.Table
import LogSelect.Text.Blank
import LogSelect.Text.Case
import LogSelect.Text.CharClass
import LogSelect.Text.Digits
import LogSelect.Text.Identifiers
import LogSelect.Text.Letters
import LogSelect.Text.Lines
import LogSelect.Text.Printable
import LogSelect.Text.Quoted
import LogSelect.Text.Utf8
import LogSelect.Value
import LogSelect.Yaml.Cursor
import LogSelect.Yaml.Kind
import LogSelect.Yaml.Node
import LogSelect.Yaml.Read
import LogSelect.Yaml.Scalar
import LogSelect.Yaml.Token
import LogSelect.Yaml.Value
