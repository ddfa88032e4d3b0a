import PortableFilter.Binary64
import PortableFilter.Binary64.Nearest
import PortableFilter.Binary64.Shortest
import PortableFilter.Binary64.Text
import PortableFilter.Calendar
import PortableFilter.CommandLine
import PortableFilter.Dialect
import PortableFilter.Document
import PortableFilter.Expr
import PortableFilter.Expr.Outline
import PortableFilter.Expr.Parser
import PortableFilter.Expr.Printer
import PortableFilter.Leaf
import PortableFilter.Graph
import PortableFilter.Json
import PortableFilter.Json.Reader
import PortableFilter.Key
import PortableFilter.Lucene
import PortableFilter.Main
import PortableFilter.ParseError
import PortableFilter.Proofs.Binary64.Nearest
import PortableFilter.Proofs.Binary64.RoundTrip
import PortableFilter.Proofs.Decimal
import PortableFilter.Proofs.Document
import PortableFilter.Proofs.Document.Acceptance
import PortableFilter.Proofs.Expr.Acceptance
import PortableFilter.Proofs.Expr.Checked
import PortableFilter.Proofs.Expr.Faults
import PortableFilter.Proofs.Expr.Grammar
import PortableFilter.Proofs.Expr.Meaning
import PortableFilter.Proofs.Expr.Nodes
import PortableFilter.Proofs.Expr.Reading
import PortableFilter.Proofs.Expr.Recognition
import PortableFilter.Proofs.Expr.Refusal
import PortableFilter.Proofs.Expr.Regrouping
import PortableFilter.Proofs.Expr.RoundTrip
import PortableFilter.Proofs.Expr.Settling
import PortableFilter.Proofs.Expr.Spelling
import PortableFilter.Proofs.Filter
import PortableFilter.Proofs.Graph.Meaning
import PortableFilter.Proofs.Graph.Reading
import PortableFilter.Proofs.Graph.RoundTrip
import PortableFilter.Proofs.Json.RoundTrip
import PortableFilter.Proofs.Outcome
import PortableFilter.Proofs.Precedence.Faithful
import PortableFilter.Proofs.Precedence.Layered
import PortableFilter.Proofs.Precedence.Lexing
import PortableFilter.Proofs.Precedence.Reading
import PortableFilter.Proofs.Precedence.Uniform
import PortableFilter.Proofs.QueryString.Dialects
import PortableFilter.Proofs.QueryString.Meaning
import PortableFilter.Proofs.QueryString.Parentheses
import PortableFilter.Proofs.QueryString.Reading
import PortableFilter.Proofs.Sql.Folding
import PortableFilter.Proofs.Sql.Meaning
import PortableFilter.Proofs.Text
import PortableFilter.Proofs.Token.Continuation
import PortableFilter.Proofs.Token.Lexing
import PortableFilter.Proofs.Token.Literal
import PortableFilter.Proofs.Token.Spelling
import PortableFilter.Proofs.ValueStyle
import PortableFilter.QueryString
import PortableFilter.Range
import PortableFilter.Render
import PortableFilter.Session
import PortableFilter.Settings
import PortableFilter.Settings.Reader
import PortableFilter.Shape
import PortableFilter.Sql
import PortableFilter.Sql.Compiler
import PortableFilter.Text.Backspace
import PortableFilter.Text.Blank
import PortableFilter.Text.CharSet
import PortableFilter.Text.Cluster
import PortableFilter.Text.Cluster.Class
import PortableFilter.Text.Digit
import PortableFilter.Text.Hidden
import PortableFilter.Text.Letter
import PortableFilter.Text.Lines
import PortableFilter.Text.Numeral
import PortableFilter.Text.Quoted
import PortableFilter.Timestamp
import PortableFilter.Token
import PortableFilter.Token.Lexer
import PortableFilter.Value
import PortableFilter.ValueStyle
import PortableFilter.Words
import PortableFilter.Workbench
import PortableFilter.Proofs.Token.Relocation
import PortableFilter.Proofs.Expr.Composition
import PortableFilter.Proofs.Expr.Redating
import PortableFilter.Proofs.Sql.Redating
import PortableFilter.Proofs.QueryString.Membership
import PortableFilter.Proofs.Sql.Membership
import PortableFilter.Proofs.Token.Coverage
import PortableFilter.Proofs.Token.Layout
import PortableFilter.Proofs.Expr.Layout
import PortableFilter.Proofs.Expr.Negation
import PortableFilter.Proofs.Session
import PortableFilter.Proofs.Expr.Address
import PortableFilter.Proofs.Sql.Report
import PortableFilter.Proofs.Expr.Ungrouping
import PortableFilter.Proofs.Key
import PortableFilter.Proofs.Token.Number
import PortableFilter.Proofs.Calendar
import PortableFilter.Proofs.ParseError
import PortableFilter.Proofs.Sql.Extraction
import PortableFilter.Proofs.Timestamp
import PortableFilter.Proofs.QueryString.Scanning
import PortableFilter.Proofs.QueryString.Terms
import PortableFilter.Proofs.Token.Denotation
import PortableFilter.Proofs.Stepper
import PortableFilter.Proofs.Stepper.Agreement
import PortableFilter.Proofs.Stepper.Nesting
import PortableFilter.Proofs.Stepper.Steadiness
