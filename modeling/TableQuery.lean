import TableQuery.Aliases
import TableQuery.Bindings
import TableQuery.Calendar.Date
import TableQuery.Calendar.Timestamp
import TableQuery.Clauses
import TableQuery.Column.Basic
import TableQuery.Column.Wire
import TableQuery.Descriptor.Basic
import TableQuery.Descriptor.Parser
import TableQuery.Entity
import TableQuery.Executor.Basic
import TableQuery.Executor.Memory
import TableQuery.Executor.Script
import TableQuery.Field
import TableQuery.Fragment
import TableQuery.Json.Decode
import TableQuery.Json.Numeral
import TableQuery.Json.Printer
import TableQuery.Json.Reader
import TableQuery.Json.Record
import TableQuery.Json.Token
import TableQuery.Like
import TableQuery.Naming
import TableQuery.Order
import TableQuery.Placeholder
import TableQuery.Query.Dialect
import TableQuery.Query.Expr
import TableQuery.Query.Select
import TableQuery.Request.Basic
import TableQuery.Request.Wire
import TableQuery.Response
import TableQuery.Scope
import TableQuery.Settings
import TableQuery.Table
import TableQuery.Text.Alphanumeric
import TableQuery.Text.Blank
import TableQuery.Text.Case
import TableQuery.Text.Word
import TableQuery.Uuid
import TableQuery.Proofs.Aliases
import TableQuery.Proofs.Registry
import TableQuery.Proofs.Scope
import TableQuery.Proofs.Field
import TableQuery.Proofs.Clauses
import TableQuery.Proofs.Request
import TableQuery.Proofs.Plan.Statement
import TableQuery.Proofs.Plan.Declaration
import TableQuery.Proofs.Placeholder
import TableQuery.Proofs.Rendering
import TableQuery.Proofs.Plan.Search
import TableQuery.Proofs.Plan.Independence
import TableQuery.Proofs.Plan.Acceptance
import TableQuery.Proofs.Evaluation
import TableQuery.Proofs.Plan.Composition
import TableQuery.Proofs.Plan.Counting
import TableQuery.Proofs.Lexeme
import TableQuery.Proofs.WellFormed
import TableQuery.Proofs.Column
import TableQuery.Proofs.Plan.Injection
import TableQuery.Proofs.Quotation
import TableQuery.Proofs.Literals
import TableQuery.Proofs.Plan.Parameters
import TableQuery.Proofs.Matching
import TableQuery.Proofs.Pattern
import TableQuery.Proofs.Reading
import TableQuery.Proofs.Fragment
import TableQuery.Proofs.Boundary
import TableQuery.Proofs.Plan.Rewriting
import TableQuery.Proofs.Descriptor.Division
import TableQuery.Proofs.Descriptor.Grammar
import TableQuery.Proofs.Layout
import TableQuery.Proofs.Expression
import TableQuery.Proofs.Json.Token
import TableQuery.Proofs.Json.Document
import TableQuery.Proofs.Wire
import TableQuery.Proofs.DateFormat
import TableQuery.Proofs.Projection
import TableQuery.Proofs.Opening
import TableQuery.Proofs.Plan.Override
import TableQuery.Proofs.Plan.Dependence
import TableQuery.Proofs.Joins
import TableQuery.Proofs.Plan.Joins
import TableQuery.Proofs.Interleaving
import TableQuery.Proofs.Polling
import TableQuery.Proofs.Answer
import TableQuery.Proofs.Memory
import TableQuery.Proofs.Tidy
import TableQuery.Proofs.FreshNames
import TableQuery.Proofs.Plan.Ordering
import TableQuery.Proofs.Spelling
import TableQuery.Proofs.Plan.Spelling
import TableQuery.Proofs.Operands
import TableQuery.Proofs.Plan.Operands
import TableQuery.Proofs.Unescaping
