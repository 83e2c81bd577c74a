import Compliance.Batch
import Compliance.Binary64
import Compliance.Calendar
import Compliance.CharSet
import Compliance.Character.Category
import Compliance.Character.Folding
import Compliance.Character.Property
import Compliance.Character.Script
import Compliance.Command
import Compliance.Command.Answer
import Compliance.Command.Arguments
import Compliance.Command.Complaint
import Compliance.Context
import Compliance.Decimal
import Compliance.Decimal.Reading
import Compliance.Decision
import Compliance.Diagnostic
import Compliance.Diagnostic.Document
import Compliance.Digest
import Compliance.Evaluation
import Compliance.Evidence
import Compliance.Evidence.Document
import Compliance.Evidence.Outline
import Compliance.Failure
import Compliance.Functions
import Compliance.Instant
import Compliance.Instant.Rfc3339
import Compliance.Json
import Compliance.Json.Printing
import Compliance.Json.Reading
import Compliance.Keyed
import Compliance.Main
import Compliance.Pattern
import Compliance.Pattern.Brackets
import Compliance.Pattern.Compile
import Compliance.Pattern.Cursor
import Compliance.Pattern.Escape
import Compliance.Pattern.Expression
import Compliance.Pattern.Meaning
import Compliance.Pattern.Reading
import Compliance.Pattern.Report
import Compliance.Pattern.Size
import Compliance.Provenance
import Compliance.Rounding
import Compliance.Rule
import Compliance.Rule.Connectives
import Compliance.Rule.Reading
import Compliance.Rule.Text
import Compliance.Rule.Tree
import Compliance.RuleSet
import Compliance.Settings
import Compliance.Span
import Compliance.Text.Blank
import Compliance.Text.Digits
import Compliance.Text.Lines
import Compliance.Text.Quoted
import Compliance.Token
import Compliance.Token.Scanning
import Compliance.Toml
import Compliance.Toml.Cursor
import Compliance.Toml.Decoding
import Compliance.Toml.Fault
import Compliance.Toml.Moment
import Compliance.Toml.Number
import Compliance.Toml.Quoted
import Compliance.Toml.Reading
import Compliance.Toml.Table
import Compliance.Value
import Compliance.Value.Coercion
import Compliance.Value.Order
import Compliance.Value.Test
import Compliance.Proofs.Batch
import Compliance.Proofs.Binary64.Nearest
import Compliance.Proofs.Binary64.Reading
import Compliance.Proofs.Binary64.Scaling
import Compliance.Proofs.Binary64.Shortest
import Compliance.Proofs.Calendar
import Compliance.Proofs.Context
import Compliance.Proofs.Context.Path
import Compliance.Proofs.Decimal.Document
import Compliance.Proofs.Decimal.Product
import Compliance.Proofs.Decimal.Reading
import Compliance.Proofs.Decimal.Shift
import Compliance.Proofs.Decimal.Text
import Compliance.Proofs.Decimal.Value
import Compliance.Proofs.Decision
import Compliance.Proofs.Decision.Conformance
import Compliance.Proofs.Decision.Outline
import Compliance.Proofs.Decision.Written
import Compliance.Proofs.Evaluation.Agreement
import Compliance.Proofs.Evaluation.Bounds
import Compliance.Proofs.Evaluation.Dependence
import Compliance.Proofs.Evaluation.Errors
import Compliance.Proofs.Evaluation.Justification
import Compliance.Proofs.Evaluation.Range
import Compliance.Proofs.Evaluation.Reach
import Compliance.Proofs.Evaluation.Reasons
import Compliance.Proofs.Evidence
import Compliance.Proofs.Evidence.Document
import Compliance.Proofs.Evidence.Outline
import Compliance.Proofs.Except
import Compliance.Proofs.Failure
import Compliance.Proofs.Grammar
import Compliance.Proofs.Grammar.Acceptance
import Compliance.Proofs.Grammar.Connectives
import Compliance.Proofs.Grammar.Operand
import Compliance.Proofs.Grammar.Rule
import Compliance.Proofs.Grammar.Test
import Compliance.Proofs.Grammar.Unbounded
import Compliance.Proofs.Grammar.Unique
import Compliance.Proofs.Grammar.Verb
import Compliance.Proofs.Instant.Midnight
import Compliance.Proofs.Instant.Range
import Compliance.Proofs.Instant.Rfc3339
import Compliance.Proofs.Json.Keys
import Compliance.Proofs.Json.Number
import Compliance.Proofs.Json.Order
import Compliance.Proofs.Json.Text
import Compliance.Proofs.Keyed
import Compliance.Proofs.Pattern.Reach
import Compliance.Proofs.Provenance
import Compliance.Proofs.Refusal
import Compliance.Proofs.Refusal.Expression
import Compliance.Proofs.Refusal.Operand
import Compliance.Proofs.Refusal.Overread
import Compliance.Proofs.Refusal.Rule
import Compliance.Proofs.Refusal.Test
import Compliance.Proofs.Rounding
import Compliance.Proofs.Rule.Canonical
import Compliance.Proofs.Rule.Document
import Compliance.Proofs.Rule.Identity
import Compliance.Proofs.Rule.Layout
import Compliance.Proofs.Rule.Lines
import Compliance.Proofs.Rule.Marks
import Compliance.Proofs.Rule.Offending
import Compliance.Proofs.Rule.RoundTrip
import Compliance.Proofs.Rule.Stable
import Compliance.Proofs.Rule.Tokens
import Compliance.Proofs.Rule.Tree
import Compliance.Proofs.Rule.Writable
import Compliance.Proofs.Schema
import Compliance.Proofs.Text.Blank
import Compliance.Proofs.Text.Digits
import Compliance.Proofs.Text.Lines
import Compliance.Proofs.Token.Boundary
import Compliance.Proofs.Token.Extension
import Compliance.Proofs.Token.Extent
import Compliance.Proofs.Token.Layout
import Compliance.Proofs.Token.Lexeme
import Compliance.Proofs.Token.Position
import Compliance.Proofs.Token.Quotation
import Compliance.Proofs.Token.Spelling
import Compliance.Proofs.Token.Tiling
import Compliance.Proofs.Value.Coercion
import Compliance.Proofs.Value.Deadline
import Compliance.Proofs.Value.Document
import Compliance.Proofs.Value.Equality
import Compliance.Proofs.Value.Keys
import Compliance.Proofs.Value.Like
import Compliance.Proofs.Value.Order
import Compliance.Proofs.Value.Range
import Compliance.Proofs.Value.Spelling
import Compliance.Proofs.Value.Trichotomy
import Compliance.Proofs.Value.Wildcards
