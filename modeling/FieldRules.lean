import FieldRules.Calendar.Civil
import FieldRules.Calendar.Instant
import FieldRules.Calendar.Reader
import FieldRules.Configuration
import FieldRules.Context
import FieldRules.Custom
import FieldRules.Declaration.Basic
import FieldRules.Declaration.Builder
import FieldRules.Declaration.Check
import FieldRules.Declaration.Document
import FieldRules.Derive.Attribute
import FieldRules.Derive.Code
import FieldRules.Derive.Data
import FieldRules.Derive.FieldType
import FieldRules.Derive.Instance
import FieldRules.Derive.Instance.Reader
import FieldRules.Derive.Item
import FieldRules.Derive.Model
import FieldRules.Derive.Reading
import FieldRules.Derive.Routine
import FieldRules.Derive.Shape
import FieldRules.Description.Basic
import FieldRules.Description.Configuration
import FieldRules.Description.Declaration
import FieldRules.Description.Outcome
import FieldRules.Description.Plan
import FieldRules.Description.Reader
import FieldRules.Description.Source
import FieldRules.Description.Views
import FieldRules.Document.Basic
import FieldRules.Document.Json.Number
import FieldRules.Document.Json.Printer
import FieldRules.Document.Json.Reader
import FieldRules.Document.Members
import FieldRules.Document.Toml.Reader
import FieldRules.Document.Toml.Scalar
import FieldRules.Document.Toml.Table
import FieldRules.Document.Yaml.Cursor
import FieldRules.Document.Yaml.Folding
import FieldRules.Document.Yaml.Quoted
import FieldRules.Document.Yaml.Reader
import FieldRules.Document.Yaml.Scalar
import FieldRules.Document.Yaml.Token
import FieldRules.Double.Basic
import FieldRules.Double.Digits
import FieldRules.Double.Reader
import FieldRules.Double.Text
import FieldRules.Engine
import FieldRules.File.Contents
import FieldRules.File.Failure
import FieldRules.File.Format
import FieldRules.IntKind
import FieldRules.Keyed
import FieldRules.Message
import FieldRules.Outcome
import FieldRules.Outcome.Document
import FieldRules.Plan
import FieldRules.Plan.Document
import FieldRules.Prepared
import FieldRules.Proofs.Calendar.Civil
import FieldRules.Proofs.Calendar.Displayed
import FieldRules.Proofs.Calendar.Stored
import FieldRules.Proofs.Declaration.Accepted
import FieldRules.Proofs.Declaration.Calls
import FieldRules.Proofs.Declaration.Defects
import FieldRules.Proofs.Declaration.Reduced
import FieldRules.Proofs.Declaration.RoundTrip
import FieldRules.Proofs.Declaration.Same
import FieldRules.Proofs.Declaration.Saved
import FieldRules.Proofs.Declaration.Stored
import FieldRules.Proofs.Derive.Aligned
import FieldRules.Proofs.Derive.Arguments
import FieldRules.Proofs.Derive.Attribute
import FieldRules.Proofs.Derive.Blocks
import FieldRules.Proofs.Derive.Commands
import FieldRules.Proofs.Derive.Constraint
import FieldRules.Proofs.Derive.Construction
import FieldRules.Proofs.Derive.Diagnosed
import FieldRules.Proofs.Derive.DynamicCopy
import FieldRules.Proofs.Derive.Emitted
import FieldRules.Proofs.Derive.Executed
import FieldRules.Proofs.Derive.Execution
import FieldRules.Proofs.Derive.FieldType
import FieldRules.Proofs.Derive.Grammar
import FieldRules.Proofs.Derive.Instance
import FieldRules.Proofs.Derive.Items
import FieldRules.Proofs.Derive.Model
import FieldRules.Proofs.Derive.Participants
import FieldRules.Proofs.Derive.Places
import FieldRules.Proofs.Derive.RecordCode
import FieldRules.Proofs.Derive.Refinement
import FieldRules.Proofs.Derive.Refusals
import FieldRules.Proofs.Derive.Spread
import FieldRules.Proofs.Derive.Statements
import FieldRules.Proofs.Derive.Validator
import FieldRules.Proofs.Document.Json
import FieldRules.Proofs.Document.Members
import FieldRules.Proofs.Double.Interval
import FieldRules.Proofs.Double.Nearest
import FieldRules.Proofs.Double.Numeral
import FieldRules.Proofs.Double.Rounding
import FieldRules.Proofs.Double.Shortest
import FieldRules.Proofs.Engine.History
import FieldRules.Proofs.Engine.Kept
import FieldRules.Proofs.Engine.Saved
import FieldRules.Proofs.Keyed
import FieldRules.Proofs.Message.Scan
import FieldRules.Proofs.Outcome.Accumulated
import FieldRules.Proofs.Outcome.Nested
import FieldRules.Proofs.Plan.Closed
import FieldRules.Proofs.Plan.Kept
import FieldRules.Proofs.Plan.Lookups
import FieldRules.Proofs.Plan.Steps
import FieldRules.Proofs.Plan.Stored
import FieldRules.Proofs.Prepared.Attributed
import FieldRules.Proofs.Prepared.Declared
import FieldRules.Proofs.Prepared.Dynamic
import FieldRules.Proofs.Prepared.Expected
import FieldRules.Proofs.Prepared.Faults
import FieldRules.Proofs.Prepared.Filled
import FieldRules.Proofs.Prepared.Groups
import FieldRules.Proofs.Prepared.Reordered
import FieldRules.Proofs.Prepared.Settled
import FieldRules.Proofs.Record.Sanitized
import FieldRules.Proofs.Registry.History
import FieldRules.Proofs.Rule.Extensions
import FieldRules.Proofs.Rule.Formats
import FieldRules.Proofs.Rule.Integers
import FieldRules.Proofs.Rule.Reading
import FieldRules.Proofs.Rule.Same
import FieldRules.Proofs.Rule.Stored
import FieldRules.Proofs.Rule.Views
import FieldRules.Proofs.Source.Decimal
import FieldRules.Proofs.Source.Form
import FieldRules.Proofs.Source.Functions
import FieldRules.Proofs.Source.Integers
import FieldRules.Proofs.Source.Literals
import FieldRules.Proofs.Source.Paths
import FieldRules.Proofs.Source.Pieces
import FieldRules.Proofs.Source.Places
import FieldRules.Proofs.Source.Reading
import FieldRules.Proofs.Source.Remaining
import FieldRules.Proofs.Source.Steps
import FieldRules.Proofs.Source.Values
import FieldRules.Proofs.Summary.Gathered
import FieldRules.Proofs.Summary.Sets
import FieldRules.Proofs.Summary.Stored
import FieldRules.Proofs.Text.Blank
import FieldRules.Proofs.Text.Case
import FieldRules.Proofs.Text.Case.Table
import FieldRules.Proofs.Value.Comparison
import FieldRules.Proofs.Value.Dates
import FieldRules.Proofs.Value.Numbers
import FieldRules.Proofs.Value.Sanitized
import FieldRules.Proofs.Value.Stored
import FieldRules.Proofs.Value.Views
import FieldRules.Record.Basic
import FieldRules.Record.Document
import FieldRules.Registry
import FieldRules.Rule.Basic
import FieldRules.Rule.Document
import FieldRules.Rule.Verdict
import FieldRules.Sanitize
import FieldRules.Services
import FieldRules.Source.Construct
import FieldRules.Source.Data
import FieldRules.Source.Expression
import FieldRules.Source.Input
import FieldRules.Source.Item
import FieldRules.Source.Literal
import FieldRules.Source.Token
import FieldRules.Source.Token.Reader
import FieldRules.Source.Type
import FieldRules.Summary
import FieldRules.Summary.Document
import FieldRules.Text.Blank
import FieldRules.Text.Case
import FieldRules.Text.Case.Context
import FieldRules.Text.Case.Table
import FieldRules.Text.Identifier
import FieldRules.Text.Identifier.Table
import FieldRules.Text.Quoted
import FieldRules.Text.Quoted.Table
import FieldRules.Text.Ranges
import FieldRules.Value.Access
import FieldRules.Value.Basic
import FieldRules.Value.Document
import FieldRules.Value.Reader
import FieldRules.Value.Shape
