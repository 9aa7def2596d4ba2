import Signpost.Command.Argument
import Signpost.Command.Help
import Signpost.Command.Invocation
import Signpost.Command.Run
import Signpost.Condition
import Signpost.Configuration
import Signpost.Health
import Signpost.Http.Document
import Signpost.Http.Message
import Signpost.Http.Route
import Signpost.Http.Service
import Signpost.Json.Reader
import Signpost.Json.Sendable
import Signpost.Json.Writer
import Signpost.Main
import Signpost.Number.Binary64
import Signpost.Number.Calendar
import Signpost.Number.Integer
import Signpost.Operation
import Signpost.Pattern.Fault
import Signpost.Pattern.Match
import Signpost.Pattern.Reader
import Signpost.Pattern.Syntax
import Signpost.Pattern.Template
import Signpost.Pattern.Token
import Signpost.Platform
import Signpost.Proofs.Access
import Signpost.Proofs.Arrival
import Signpost.Proofs.Backends
import Signpost.Proofs.Batches
import Signpost.Proofs.BlankLines
import Signpost.Proofs.Body
import Signpost.Proofs.Breaking
import Signpost.Proofs.Candidates
import Signpost.Proofs.Clauses
import Signpost.Proofs.Columns
import Signpost.Proofs.Conversion
import Signpost.Proofs.Course
import Signpost.Proofs.Decimal
import Signpost.Proofs.Depth
import Signpost.Proofs.DigitBehind
import Signpost.Proofs.Document
import Signpost.Proofs.DotSegments
import Signpost.Proofs.Entry
import Signpost.Proofs.Fallback
import Signpost.Proofs.Fields
import Signpost.Proofs.Filter
import Signpost.Proofs.Formula
import Signpost.Proofs.Frame
import Signpost.Proofs.History
import Signpost.Proofs.Holdings
import Signpost.Proofs.HostColumn
import Signpost.Proofs.HostPrecedence
import Signpost.Proofs.Import
import Signpost.Proofs.Indifference
import Signpost.Proofs.Integers
import Signpost.Proofs.Invariant
import Signpost.Proofs.Keeping
import Signpost.Proofs.Ledger
import Signpost.Proofs.Leftmost
import Signpost.Proofs.Location
import Signpost.Proofs.Migrations
import Signpost.Proofs.Numerals
import Signpost.Proofs.OperationText
import Signpost.Proofs.Patching
import Signpost.Proofs.Path
import Signpost.Proofs.Query
import Signpost.Proofs.QueryText
import Signpost.Proofs.Records
import Signpost.Proofs.References
import Signpost.Proofs.Refusals
import Signpost.Proofs.Reimport
import Signpost.Proofs.Replacement
import Signpost.Proofs.Resolution
import Signpost.Proofs.Shown
import Signpost.Proofs.Slash
import Signpost.Proofs.Spacing
import Signpost.Proofs.Unknown
import Signpost.Proofs.Unreadable
import Signpost.Proofs.Usable
import Signpost.Proofs.Utf8
import Signpost.Proofs.WriteBack
import Signpost.Resolve.Candidate
import Signpost.Resolve.Request
import Signpost.Resolve.Substitution
import Signpost.Rule
import Signpost.RuleBase
import Signpost.Schema
import Signpost.Session
import Signpost.Settings
import Signpost.Sheet.Csv
import Signpost.Sheet.Entry
import Signpost.Sheet.Import
import Signpost.Sheet.Rows
import Signpost.Sql.Cell
import Signpost.Sql.Clause
import Signpost.Sql.Database
import Signpost.Sql.Formula
import Signpost.Sql.Limit
import Signpost.Sql.Script
import Signpost.Store
import Signpost.Store.Failure
import Signpost.Store.Folder
import Signpost.Store.Image
import Signpost.Store.Memory
import Signpost.Store.Migration
import Signpost.Store.Tables
import Signpost.Text.Blank
import Signpost.Text.Case
import Signpost.Text.Digit
import Signpost.Text.Encoding
import Signpost.Text.Identifier
import Signpost.Text.Line
import Signpost.Text.Name
import Signpost.Text.Printable
import Signpost.Text.Quoted
import Signpost.Text.Split
import Signpost.Text.Surrogate
import Signpost.Text.Table
import Signpost.Text.Word
import Signpost.Url.Address
import Signpost.Url.Location
import Signpost.Url.Query
import Signpost.Url.Split
import Signpost.Value
import Signpost.Yaml.Document
import Signpost.Yaml.Layout
import Signpost.Yaml.Node
import Signpost.Yaml.Plain
import Signpost.Yaml.Scalar
import Signpost.Yaml.Token
