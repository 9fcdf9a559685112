import CardExpr.Builtin.Calendar
import CardExpr.Builtin.Color
import CardExpr.Builtin.Convert
import CardExpr.Builtin.Entry
import CardExpr.Builtin.Lookup
import CardExpr.Builtin.Math
import CardExpr.Builtin.Registry
import CardExpr.Builtin.Text
import CardExpr.Calendar.Date
import CardExpr.Calendar.DateTime
import CardExpr.Calendar.Pattern
import CardExpr.Calendar.Text
import CardExpr.Card.Declarations
import CardExpr.Color
import CardExpr.Command.Basic
import CardExpr.Command.Error
import CardExpr.Command.Invocation
import CardExpr.Command.Variables
import CardExpr.Config
import CardExpr.Decimal.Binary64
import CardExpr.Decimal.Reader
import CardExpr.Decimal.Shortest
import CardExpr.Decimal.Text
import CardExpr.Evaluation.Basic
import CardExpr.Evaluation.Error
import CardExpr.Evaluation.Operators
import CardExpr.Evaluation.Reads
import CardExpr.Evaluation.Run
import CardExpr.Expr
import CardExpr.Expr.Parser
import CardExpr.Expression
import CardExpr.Function.Action
import CardExpr.Function.Args
import CardExpr.Function.Declaration
import CardExpr.Function.Registry
import CardExpr.Function.Signature
import CardExpr.Json.Basic
import CardExpr.Json.Node
import CardExpr.Main
import CardExpr.Regex.Basic
import CardExpr.Regex.Meaning
import CardExpr.Regex.Pattern
import CardExpr.Regex.Property
import CardExpr.Regex.Reader
import CardExpr.Regex.Size
import CardExpr.Session.Basic
import CardExpr.Session.Script
import CardExpr.Session.Settle
import CardExpr.Store.Basic
import CardExpr.Store.Change
import CardExpr.Store.Variable
import CardExpr.Table
import CardExpr.Text.AgeTable
import CardExpr.Text.Blank
import CardExpr.Text.Boundary
import CardExpr.Text.Case
import CardExpr.Text.CaseTable
import CardExpr.Text.Category
import CardExpr.Text.CategoryTable
import CardExpr.Text.CodeSet
import CardExpr.Text.LatestTable
import CardExpr.Text.Percent
import CardExpr.Text.Property
import CardExpr.Text.PropertyTable
import CardExpr.Text.Quoted
import CardExpr.Text.ScriptTable
import CardExpr.Text.Search
import CardExpr.Text.Utf8
import CardExpr.Text.Utf8Range
import CardExpr.Token
import CardExpr.Token.Lexer
import CardExpr.Value.Basic
import CardExpr.Value.Json
import CardExpr.Proofs.Evaluation.Tracking
import CardExpr.Proofs.Evaluation.ReadSet
import CardExpr.Proofs.Evaluation.ReadOrder
import CardExpr.Proofs.Evaluation.Reuse
import CardExpr.Proofs.Session.Parts
import CardExpr.Proofs.Session.Wiring
import CardExpr.Proofs.Session.Effect
import CardExpr.Proofs.Session.Numbering
import CardExpr.Proofs.Session.Schedule
import CardExpr.Proofs.Session.UpToDate
import CardExpr.Proofs.Expr.Grammar
import CardExpr.Proofs.Expr.Reading
import CardExpr.Proofs.Expr.Soundness
import CardExpr.Proofs.Expr.Completeness
import CardExpr.Proofs.Expr.Correctness
import CardExpr.Proofs.Expr.Lookahead
import CardExpr.Proofs.Expr.Viability
import CardExpr.Proofs.Expr.ErrorPosition
import CardExpr.Proofs.Token.Spelling
import CardExpr.Proofs.Token.Escape
import CardExpr.Proofs.Token.Words
import CardExpr.Proofs.Token.RoundTrip
import CardExpr.Proofs.Token.Slice
import CardExpr.Proofs.Token.Lossless
import CardExpr.Proofs.Evaluation.Semantics
import CardExpr.Proofs.Function.Outcome
import CardExpr.Proofs.Function.Limit
import CardExpr.Proofs.Evaluation.Failure
import CardExpr.Proofs.Evaluation.DepthLimit
import CardExpr.Proofs.Session.Arrival
import CardExpr.Proofs.Session.Atomicity
import CardExpr.Proofs.Session.Coalescing
import CardExpr.Proofs.Session.Delivery
import CardExpr.Proofs.Function.Registration
import CardExpr.Proofs.Function.Checking
import CardExpr.Proofs.Function.Acceptance
import CardExpr.Proofs.Function.Dispatch
import CardExpr.Proofs.Function.Soundness
import CardExpr.Proofs.Function.Binding
import CardExpr.Proofs.Evaluation.Closed
import CardExpr.Proofs.Calendar.RoundTrip
import CardExpr.Proofs.Calendar.Reading
import CardExpr.Proofs.Value.RoundTrip
import CardExpr.Proofs.Store.History
import CardExpr.Proofs.Store.Scoping
import CardExpr.Proofs.Store.Typing
import CardExpr.Proofs.Store.Update
import CardExpr.Proofs.Store.NetChange
import CardExpr.Proofs.Session.Registration
import CardExpr.Proofs.Session.Relevance
import CardExpr.Proofs.Evaluation.Operands
import CardExpr.Proofs.Function.Builtin
import CardExpr.Proofs.Builtin.Arithmetic
import CardExpr.Proofs.Builtin.Lookup
import CardExpr.Proofs.Evaluation.Compositional
import CardExpr.Proofs.Evaluation.Alike
import CardExpr.Proofs.Store.Snapshot
import CardExpr.Proofs.Evaluation.Visits
import CardExpr.Proofs.Function.Reading
import CardExpr.Proofs.Evaluation.References
import CardExpr.Proofs.Expression.PlainText
import CardExpr.Proofs.Expression.Constant
import CardExpr.Proofs.Builtin.Calendar
import CardExpr.Proofs.Text.Search
import CardExpr.Proofs.Builtin.Text
import CardExpr.Proofs.Text.Utf8
import CardExpr.Proofs.Builtin.Uri
import CardExpr.Proofs.Calendar.Pattern
import CardExpr.Proofs.Calendar.Quoting
import CardExpr.Proofs.Builtin.DatePattern
import CardExpr.Proofs.Color.Text
import CardExpr.Proofs.Function.Listing
import CardExpr.Proofs.Expr.Unfolding
import CardExpr.Proofs.Expr.Progress
import CardExpr.Proofs.Value.Reading
import CardExpr.Proofs.Json.Equality
import CardExpr.Proofs.Json.Record
import CardExpr.Proofs.Card.Declarations
import CardExpr.Proofs.Card.Functions
import CardExpr.Proofs.Command.Assignment
import CardExpr.Proofs.Command.Reading
import CardExpr.Proofs.Command.Declaration
import CardExpr.Proofs.Command.Evaluation
