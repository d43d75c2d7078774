import LogicalSql.Calendar
import LogicalSql.Command.Arguments
import LogicalSql.Command.Help
import LogicalSql.Command.Path
import LogicalSql.Command.Run
import LogicalSql.Config.Connection
import LogicalSql.Config.File
import LogicalSql.Decimal.Basic
import LogicalSql.Decimal.Floating
import LogicalSql.Decimal.Shortest
import LogicalSql.Document.Shape
import LogicalSql.Json.Print
import LogicalSql.Json.Reader
import LogicalSql.Json.Record
import LogicalSql.Lowering.Call
import LogicalSql.Lowering.Error
import LogicalSql.Lowering.Pipeline
import LogicalSql.Lowering.Text
import LogicalSql.Lowering.TypeColumn
import LogicalSql.Main
import LogicalSql.Mapping.Catalog
import LogicalSql.Mapping.Error
import LogicalSql.Mapping.File
import LogicalSql.Mapping.Property
import LogicalSql.Mapping.Set
import LogicalSql.Mapping.Table
import LogicalSql.Proofs.Config.Settings
import LogicalSql.Proofs.Lowering.Agreement
import LogicalSql.Proofs.Lowering.BranchSteps
import LogicalSql.Proofs.Lowering.Counterparts
import LogicalSql.Proofs.Lowering.CteNames
import LogicalSql.Proofs.Lowering.DateTime
import LogicalSql.Proofs.Lowering.DerivedTables
import LogicalSql.Proofs.Lowering.Frame
import LogicalSql.Proofs.Lowering.Grouping
import LogicalSql.Proofs.Lowering.Growth
import LogicalSql.Proofs.Lowering.Hygiene
import LogicalSql.Proofs.Lowering.Kept
import LogicalSql.Proofs.Lowering.LogicalCalls
import LogicalSql.Proofs.Lowering.NestingLimit
import LogicalSql.Proofs.Lowering.RepeatedTypes
import LogicalSql.Proofs.Lowering.ResultColumns
import LogicalSql.Proofs.Lowering.StoredMappings
import LogicalSql.Proofs.Lowering.TypeColumn
import LogicalSql.Proofs.Lowering.UnionPositions
import LogicalSql.Proofs.Lowering.Validated
import LogicalSql.Proofs.Lowering.WalkFrame
import LogicalSql.Proofs.Mapping.Backed
import LogicalSql.Proofs.Mapping.Catalog
import LogicalSql.Proofs.Mapping.Interleaving
import LogicalSql.Proofs.Mapping.PropertyText
import LogicalSql.Proofs.Mapping.Refused
import LogicalSql.Proofs.Mapping.Set
import LogicalSql.Proofs.Mapping.Storable
import LogicalSql.Proofs.Mapping.Stored
import LogicalSql.Proofs.Mapping.TypeIndex
import LogicalSql.Proofs.Mapping.WarmOnce
import LogicalSql.Proofs.Mapping.WarmSuffices
import LogicalSql.Proofs.Mapping.WarmUp
import LogicalSql.Proofs.Mapping.Written
import LogicalSql.Proofs.Outcome
import LogicalSql.Proofs.Query.FromClause
import LogicalSql.Proofs.Query.Grouping
import LogicalSql.Proofs.Query.Harvest
import LogicalSql.Proofs.Query.Literals
import LogicalSql.Proofs.Query.Nesting
import LogicalSql.Proofs.Query.Places
import LogicalSql.Proofs.Query.Plain
import LogicalSql.Proofs.Query.ReadBack
import LogicalSql.Proofs.Query.Refusal
import LogicalSql.Proofs.Query.RoundTrip
import LogicalSql.Proofs.Query.SetOperations
import LogicalSql.Proofs.Query.Size
import LogicalSql.Proofs.Query.Tours
import LogicalSql.Proofs.Query.Unchanged
import LogicalSql.Proofs.Query.VisitOrder
import LogicalSql.Proofs.Query.WalkHarvest
import LogicalSql.Proofs.Storage.Lookup
import LogicalSql.Proofs.Storage.Replacement
import LogicalSql.Proofs.Surface.Climbing
import LogicalSql.Proofs.Surface.FlatChains
import LogicalSql.Proofs.Surface.Operators
import LogicalSql.Proofs.Surface.Primaries
import LogicalSql.Proofs.Surface.Reads
import LogicalSql.Proofs.Surface.RowLimits
import LogicalSql.Proofs.Surface.SetOperations
import LogicalSql.Proofs.Surface.TypedStrings
import LogicalSql.Proofs.Text.Lines
import LogicalSql.Proofs.Text.Printed
import LogicalSql.Query.Basic
import LogicalSql.Query.Chain
import LogicalSql.Query.Function
import LogicalSql.Query.Parse
import LogicalSql.Query.ParseError
import LogicalSql.Query.Print
import LogicalSql.Query.Scope
import LogicalSql.Query.Tables
import LogicalSql.Query.Trace
import LogicalSql.Query.Walk
import LogicalSql.Storage.Backend
import LogicalSql.Storage.Memory
import LogicalSql.Storage.Server
import LogicalSql.Storage.Statement
import LogicalSql.Storage.Table
import LogicalSql.Surface.Interpret
import LogicalSql.Surface.Keyword
import LogicalSql.Surface.Lexer
import LogicalSql.Surface.Outline
import LogicalSql.Surface.Reader.Alter
import LogicalSql.Surface.Reader.Basic
import LogicalSql.Surface.Reader.Change
import LogicalSql.Surface.Reader.Column
import LogicalSql.Surface.Reader.Create
import LogicalSql.Surface.Reader.DataType
import LogicalSql.Surface.Reader.Function
import LogicalSql.Surface.Reader.Infix
import LogicalSql.Surface.Reader.Inspect
import LogicalSql.Surface.Reader.JsonTable
import LogicalSql.Surface.Reader.Level
import LogicalSql.Surface.Reader.Merge
import LogicalSql.Surface.Reader.Pivot
import LogicalSql.Surface.Reader.Primary
import LogicalSql.Surface.Reader.Query
import LogicalSql.Surface.Reader.Relation
import LogicalSql.Surface.Reader.Role
import LogicalSql.Surface.Reader.Routine
import LogicalSql.Surface.Reader.Select
import LogicalSql.Surface.Reader.Session
import LogicalSql.Surface.Reader.Statement
import LogicalSql.Surface.Reader.Table
import LogicalSql.Surface.Reader.Time
import LogicalSql.Surface.Reader.Transaction
import LogicalSql.Surface.Show
import LogicalSql.Surface.Token
import LogicalSql.Surface.Tree
import LogicalSql.Text.Alphabetic
import LogicalSql.Text.Cased
import LogicalSql.Text.Digits
import LogicalSql.Text.Lines
import LogicalSql.Text.Lower
import LogicalSql.Text.Numeric
import LogicalSql.Text.Quoted
import LogicalSql.Text.Span
import LogicalSql.Text.Upper
import LogicalSql.Text.Visible
import LogicalSql.Toml.Reader
import LogicalSql.Toml.Scalar
import LogicalSql.Toml.Value
