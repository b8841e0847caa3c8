import SqlCompose.Assignment
import SqlCompose.Builder
import SqlCompose.Calendar.Date
import SqlCompose.Calendar.Reader
import SqlCompose.Calendar.Timestamp
import SqlCompose.Condition.Basic
import SqlCompose.Condition.Clause
import SqlCompose.Condition.Comparer
import SqlCompose.Condition.OfJson
import SqlCompose.Config
import SqlCompose.Entries
import SqlCompose.Error
import SqlCompose.Execution.Journal
import SqlCompose.Execution.Run
import SqlCompose.Join.Basic
import SqlCompose.Join.Clause
import SqlCompose.Json.Basic
import SqlCompose.Json.Numeral
import SqlCompose.Json.Printer
import SqlCompose.Json.Reader
import SqlCompose.Json.Scanner
import SqlCompose.Json.Token
import SqlCompose.Naming.Convention
import SqlCompose.Naming.Path
import SqlCompose.Number.Binary
import SqlCompose.Number.Hex
import SqlCompose.Number.Integer
import SqlCompose.Number.Shortest
import SqlCompose.Page
import SqlCompose.Pagination
import SqlCompose.Proofs.Condition.Comparison
import SqlCompose.Proofs.Condition.Meaning
import SqlCompose.Proofs.Condition.Precedence
import SqlCompose.Proofs.Execution.Mode
import SqlCompose.Proofs.Execution.Report
import SqlCompose.Proofs.Execution.RoundTrip
import SqlCompose.Proofs.Execution.Secrecy
import SqlCompose.Proofs.Naming.Signs
import SqlCompose.Proofs.Sql.DollarFree
import SqlCompose.Proofs.Sql.Placeholder
import SqlCompose.Proofs.Statement.BoundValues
import SqlCompose.Proofs.Statement.DollarFree
import SqlCompose.Proofs.Statement.Inversion
import SqlCompose.Proofs.Statement.Placeholder
import SqlCompose.Proofs.Statement.Veil
import SqlCompose.Proofs.Text.LetterCase
import SqlCompose.Proofs.Text.Mark
import SqlCompose.Row
import SqlCompose.Sql
import SqlCompose.Statement.Basic
import SqlCompose.Statement.Clause
import SqlCompose.Text.Alphanumeric
import SqlCompose.Text.Blank
import SqlCompose.Text.CodePoints
import SqlCompose.Text.Cut
import SqlCompose.Text.Delimited
import SqlCompose.Text.LetterCase
import SqlCompose.Text.Mark
import SqlCompose.Text.Printable
import SqlCompose.Text.Shown
import SqlCompose.Text.Split
import SqlCompose.Text.Words
import SqlCompose.Uuid
import SqlCompose.Value.Basic
import SqlCompose.Value.Literal
import SqlCompose.Wire.Bytes
import SqlCompose.Wire.ColumnType
import SqlCompose.Wire.Decode
import SqlCompose.Wire.Encode
import SqlCompose.Wire.Numeric
import SqlCompose.Wire.Server
import SqlCompose.Proofs.Failure
import SqlCompose.Proofs.Sql.Spaced
import SqlCompose.Proofs.Statement.Count
import SqlCompose.Proofs.Condition.Grammar
import SqlCompose.Proofs.Condition.Rendering
import SqlCompose.Proofs.Builder.Fault
import SqlCompose.Proofs.Condition.NullTest
import SqlCompose.Proofs.Statement.Fault
import SqlCompose.Proofs.Builder.Rejection
import SqlCompose.Proofs.Execution.Agreement
import SqlCompose.Proofs.Execution.Recasing
import SqlCompose.Proofs.Row
import SqlCompose.Proofs.Number.Hex
import SqlCompose.Proofs.Number.Shortest
import SqlCompose.Proofs.Uuid
import SqlCompose.Proofs.Calendar.Date
import SqlCompose.Proofs.Calendar.Timestamp
import SqlCompose.Proofs.Calendar.Reader
import SqlCompose.Proofs.Json.Strings
import SqlCompose.Proofs.Json.Numerals
import SqlCompose.Proofs.Json.Scanner
import SqlCompose.Proofs.Json.Reader
import SqlCompose.Proofs.Wire.Bytes
import SqlCompose.Proofs.Wire.WriteBack
import SqlCompose.Proofs.Wire.JsonColumn
import SqlCompose.Proofs.Number.Integer
import SqlCompose.Proofs.Wire.Spelling
import SqlCompose.Proofs.Wire.TypedText
import SqlCompose.Proofs.Condition.Outcome
import SqlCompose.Proofs.Naming.RoundTrip
import SqlCompose.Proofs.Naming.Path
import SqlCompose.Proofs.Condition.Sequence
import SqlCompose.Proofs.Condition.Redundant
import SqlCompose.Proofs.Condition.Leaf
import SqlCompose.Proofs.Statement.Filter
import SqlCompose.Proofs.Sql.Renumbering
import SqlCompose.Proofs.Sql.Writing
import SqlCompose.Proofs.Condition.Writing
import SqlCompose.Proofs.Statement.Relocation
import SqlCompose.Proofs.Statement.Key
import SqlCompose.Proofs.Execution.Lookup
import SqlCompose.Proofs.Naming.Spans
import SqlCompose.Proofs.Execution.QuotedKey
import SqlCompose.Proofs.Page
import SqlCompose.Proofs.Text.Letters
import SqlCompose.Proofs.Naming.Unquoted
import SqlCompose.Proofs.Text.Delimited
import SqlCompose.Proofs.Condition.Constant
import SqlCompose.Proofs.Builder.Field
import SqlCompose.Proofs.Builder.Count
import SqlCompose.Proofs.Statement.Text
import SqlCompose.Proofs.Builder.SetList
import SqlCompose.Proofs.Number.Positional
import SqlCompose.Proofs.Number.WideInteger
import SqlCompose.Proofs.Value.Integer
import SqlCompose.Proofs.Builder.Exchange
import SqlCompose.Proofs.Join.Description
import SqlCompose.Proofs.Statement.Assignment
import SqlCompose.Proofs.Text.Cut
import SqlCompose.Proofs.Execution.Log
import SqlCompose.Proofs.Text.Blank
import SqlCompose.Proofs.Page.Total
import SqlCompose.Proofs.Wire.Columns
import SqlCompose.Proofs.Execution.Columns
import SqlCompose.Proofs.Text.Alias
import SqlCompose.Proofs.Text.Bytes
import SqlCompose.Proofs.Statement.Alias
import SqlCompose.Proofs.Wire.ByteText
