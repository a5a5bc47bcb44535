import Dossier.Access.Definitions
import Dossier.Access.Grant
import Dossier.Access.Mask
import Dossier.Access.Permission
import Dossier.Access.Roster
import Dossier.Access.RowPredicate
import Dossier.CommandLine.Command
import Dossier.CommandLine.Run
import Dossier.Condition.Basic
import Dossier.Condition.Compile
import Dossier.Condition.Variables
import Dossier.Dict
import Dossier.Fault
import Dossier.Filter.Basic
import Dossier.Filter.Compile
import Dossier.Filter.Sort
import Dossier.Json.Basic
import Dossier.Json.Printer
import Dossier.Json.Reader
import Dossier.Json.Structure
import Dossier.Main
import Dossier.Notify.Dispatcher
import Dossier.Notify.Notification
import Dossier.Notify.Queue
import Dossier.Numeric.Decimal
import Dossier.Numeric.Digit
import Dossier.Numeric.Double
import Dossier.Numeric.Numeral
import Dossier.Predicate.Basic
import Dossier.Predicate.Document
import Dossier.Proofs.Absence
import Dossier.Proofs.Alike
import Dossier.Proofs.Amount
import Dossier.Proofs.AuditTrail
import Dossier.Proofs.Births
import Dossier.Proofs.Bounds
import Dossier.Proofs.CallRules
import Dossier.Proofs.Comparison
import Dossier.Proofs.CompiledFilter
import Dossier.Proofs.Condition
import Dossier.Proofs.DateText
import Dossier.Proofs.Delivery
import Dossier.Proofs.Demands
import Dossier.Proofs.Dict
import Dossier.Proofs.Differences
import Dossier.Proofs.Digits
import Dossier.Proofs.Discretion
import Dossier.Proofs.Double
import Dossier.Proofs.Echo
import Dossier.Proofs.FailClosed
import Dossier.Proofs.GuardedWrites
import Dossier.Proofs.Interleaving
import Dossier.Proofs.Isolation
import Dossier.Proofs.Lifecycle
import Dossier.Proofs.LikePattern
import Dossier.Proofs.Listing
import Dossier.Proofs.ListingOrder
import Dossier.Proofs.Masking
import Dossier.Proofs.Membership
import Dossier.Proofs.Moments
import Dossier.Proofs.NormalForm
import Dossier.Proofs.NumberText
import Dossier.Proofs.Order
import Dossier.Proofs.Origin
import Dossier.Proofs.Pages
import Dossier.Proofs.Patch
import Dossier.Proofs.Payload
import Dossier.Proofs.Populate
import Dossier.Proofs.Predicate
import Dossier.Proofs.Range
import Dossier.Proofs.Rendering
import Dossier.Proofs.Report
import Dossier.Proofs.RequiredFields
import Dossier.Proofs.Resolution
import Dossier.Proofs.RoleDocuments
import Dossier.Proofs.Roster
import Dossier.Proofs.RowConditions
import Dossier.Proofs.SameForm
import Dossier.Proofs.Schema
import Dossier.Proofs.Shadowing
import Dossier.Proofs.Shortest
import Dossier.Proofs.SideEffects
import Dossier.Proofs.SortNames
import Dossier.Proofs.SortNotation
import Dossier.Proofs.Sql.Agreement
import Dossier.Proofs.Sql.Binding
import Dossier.Proofs.Sql.Cell
import Dossier.Proofs.Sql.Condition
import Dossier.Proofs.Sql.Expression
import Dossier.Proofs.Sql.FilterTypes
import Dossier.Proofs.Sql.Hydration
import Dossier.Proofs.Sql.Injection
import Dossier.Proofs.Sql.Numbering
import Dossier.Proofs.Sql.Ordering
import Dossier.Proofs.Sql.Simulation
import Dossier.Proofs.Sql.Spacing
import Dossier.Proofs.Sql.Token
import Dossier.Proofs.Sql.Truth
import Dossier.Proofs.Sql.Typing
import Dossier.Proofs.Sql.Update
import Dossier.Proofs.Structure
import Dossier.Proofs.Substitution
import Dossier.Proofs.Surroundings
import Dossier.Proofs.Targets
import Dossier.Proofs.TextOrder
import Dossier.Proofs.TypedStore
import Dossier.Proofs.TypedValue
import Dossier.Proofs.Uncontended
import Dossier.Proofs.Union
import Dossier.Proofs.Uuid
import Dossier.Proofs.WriteBack
import Dossier.Proofs.WriteFrame
import Dossier.Record.Approval
import Dossier.Record.Basic
import Dossier.Record.Diff
import Dossier.Record.SystemField
import Dossier.Schema.Definitions
import Dossier.Schema.Field
import Dossier.Schema.FieldError
import Dossier.Schema.Reading
import Dossier.Schema.Registry
import Dossier.Service.AuditEntry
import Dossier.Service.Basic
import Dossier.Service.Call
import Dossier.Service.Payload
import Dossier.Service.Populate
import Dossier.Service.Reading
import Dossier.Service.Request
import Dossier.Service.Session
import Dossier.Service.Workflows
import Dossier.Service.Writing
import Dossier.Settings.Basic
import Dossier.Settings.Variables
import Dossier.Sql.Assignment
import Dossier.Sql.Binding
import Dossier.Sql.Clause
import Dossier.Sql.Listing
import Dossier.Sql.Operand
import Dossier.Sql.Order
import Dossier.Sql.Query
import Dossier.Sql.Row
import Dossier.Sql.Statement
import Dossier.Sql.Table
import Dossier.Store.Basic
import Dossier.Store.Error
import Dossier.Store.Listing
import Dossier.Store.Query
import Dossier.Store.Request
import Dossier.Text.Blank
import Dossier.Text.HiddenTable
import Dossier.Text.Lowercase
import Dossier.Text.Quoted
import Dossier.Text.Shape
import Dossier.Time.Instant
import Dossier.Time.Resolution
import Dossier.Time.Text
import Dossier.Uuid
import Dossier.Value.Basic
import Dossier.Value.Conversion
import Dossier.Value.Reading
import Dossier.Value.Tagged
import Dossier.Web.HostName
import Dossier.Web.HostTable
import Dossier.Web.NetworkAddress
import Dossier.Web.WebAddress
import Dossier.Yaml.Block
import Dossier.Yaml.Layout
import Dossier.Yaml.Node
import Dossier.Yaml.Resolution
import Dossier.Yaml.Scalar
import Dossier.Yaml.Structure
import Dossier.Yaml.Text
import Dossier.Yaml.Token
