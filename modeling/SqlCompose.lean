import SqlCompose.Calendar
import SqlCompose.Cte
import SqlCompose.Delete
import SqlCompose.Dialect
import SqlCompose.Doc
import SqlCompose.Exchange.Names
import SqlCompose.Exchange.Report
import SqlCompose.Exchange.Session
import SqlCompose.Exchange.Value
import SqlCompose.Exclude
import SqlCompose.Field
import SqlCompose.Fragment
import SqlCompose.Function
import SqlCompose.Insert
import SqlCompose.Interpolation
import SqlCompose.Join
import SqlCompose.Json.Access
import SqlCompose.Json.Basic
import SqlCompose.Json.Printer
import SqlCompose.Json.Reader
import SqlCompose.Layout
import SqlCompose.Naming
import SqlCompose.Number.Binary
import SqlCompose.Number.Shortest
import SqlCompose.Number.Written
import SqlCompose.Placeholder
import SqlCompose.Predicate
import SqlCompose.Proofs.Absent
import SqlCompose.Proofs.Alignment
import SqlCompose.Proofs.CallOrder
import SqlCompose.Proofs.Clauses
import SqlCompose.Proofs.Columns
import SqlCompose.Proofs.Counting
import SqlCompose.Proofs.Cutting
import SqlCompose.Proofs.Deadlines
import SqlCompose.Proofs.Decimals
import SqlCompose.Proofs.Drafts
import SqlCompose.Proofs.Edits
import SqlCompose.Proofs.Emptiness
import SqlCompose.Proofs.EmptyLabels
import SqlCompose.Proofs.Erasure
import SqlCompose.Proofs.Existence
import SqlCompose.Proofs.Fetching
import SqlCompose.Proofs.FreshNames
import SqlCompose.Proofs.Grouping
import SqlCompose.Proofs.Infix
import SqlCompose.Proofs.Insertion
import SqlCompose.Proofs.Interpolation
import SqlCompose.Proofs.Joins
import SqlCompose.Proofs.Layout
import SqlCompose.Proofs.Literal
import SqlCompose.Proofs.Loggers
import SqlCompose.Proofs.Markers
import SqlCompose.Proofs.Marks
import SqlCompose.Proofs.Meaning
import SqlCompose.Proofs.Numbering
import SqlCompose.Proofs.Operands
import SqlCompose.Proofs.Operations
import SqlCompose.Proofs.Operators
import SqlCompose.Proofs.Orders
import SqlCompose.Proofs.Parts
import SqlCompose.Proofs.Pieces
import SqlCompose.Proofs.Positions
import SqlCompose.Proofs.Quoting
import SqlCompose.Proofs.Regrouping
import SqlCompose.Proofs.Rendering
import SqlCompose.Proofs.Root
import SqlCompose.Proofs.Rows
import SqlCompose.Proofs.Settings
import SqlCompose.Proofs.Spots
import SqlCompose.Proofs.Templates
import SqlCompose.Proofs.TopLevel
import SqlCompose.Proofs.Tree
import SqlCompose.Proofs.Tuples
import SqlCompose.Proofs.Unfiltered
import SqlCompose.Proofs.Verbatim
import SqlCompose.Proofs.Windows
import SqlCompose.Proofs.Workbench
import SqlCompose.Query
import SqlCompose.Select
import SqlCompose.Session.Call
import SqlCompose.Session.Client
import SqlCompose.Session.Error
import SqlCompose.Session.Execution
import SqlCompose.Session.Log
import SqlCompose.Session.Row
import SqlCompose.Session.Server
import SqlCompose.SetOperation
import SqlCompose.Table
import SqlCompose.Template
import SqlCompose.Text.Dump
import SqlCompose.Text.Hex
import SqlCompose.Text.Neutral
import SqlCompose.Text.Quoted
import SqlCompose.Text.Visible
import SqlCompose.Tree
import SqlCompose.Update
import SqlCompose.Value.Basic
import SqlCompose.Value.Literal
import SqlCompose.Wire.Decode
import SqlCompose.Wire.Encode
import SqlCompose.Wire.PgType
