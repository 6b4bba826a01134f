import BucketQuery.Address.Basic
import BucketQuery.Address.Host
import BucketQuery.Address.HostName
import BucketQuery.Address.NameTable
import BucketQuery.Address.Punycode
import BucketQuery.Address.ScriptTable
import BucketQuery.Bucket.Answer
import BucketQuery.Bucket.Basic
import BucketQuery.Bucket.Evaluation
import BucketQuery.Filter.Key
import BucketQuery.Filter.Predicate
import BucketQuery.Json.Basic
import BucketQuery.Json.Collation
import BucketQuery.Json.Printer
import BucketQuery.Json.Token
import BucketQuery.Json.Written
import BucketQuery.Main
import BucketQuery.Number.Basic
import BucketQuery.Number.Decimal
import BucketQuery.Number.Double
import BucketQuery.Number.Numeral
import BucketQuery.Operation.Error
import BucketQuery.Operation.Executor
import BucketQuery.Operation.Memory
import BucketQuery.Operation.Plan
import BucketQuery.Program.Argument
import BucketQuery.Program.Command
import BucketQuery.Program.CommandLine
import BucketQuery.Program.Layer
import BucketQuery.Program.LogFilter
import BucketQuery.Program.Path
import BucketQuery.Program.Run
import BucketQuery.Program.Settings
import BucketQuery.Program.ValuePattern
import BucketQuery.Program.VariableFile
import BucketQuery.Proofs.Bucket.Containment
import BucketQuery.Proofs.Bucket.Contents
import BucketQuery.Proofs.Bucket.Exclusion
import BucketQuery.Proofs.Bucket.Integer
import BucketQuery.Proofs.Bucket.Listing
import BucketQuery.Proofs.Bucket.Ordering
import BucketQuery.Proofs.Bucket.Path
import BucketQuery.Proofs.Bucket.Range
import BucketQuery.Proofs.Bucket.Reordering
import BucketQuery.Proofs.Bucket.Selection
import BucketQuery.Proofs.Bucket.Sorted
import BucketQuery.Proofs.Filter.Conjuncts
import BucketQuery.Proofs.Filter.Key
import BucketQuery.Proofs.Filter.Predicate
import BucketQuery.Proofs.Filter.Satisfaction
import BucketQuery.Proofs.Json.Collation
import BucketQuery.Proofs.Json.Grammar
import BucketQuery.Proofs.Json.Lexeme
import BucketQuery.Proofs.Json.Members
import BucketQuery.Proofs.Json.Quoted
import BucketQuery.Proofs.Json.Spelling
import BucketQuery.Proofs.Json.Value
import BucketQuery.Proofs.Number.Exact
import BucketQuery.Proofs.Number.Nearest
import BucketQuery.Proofs.Number.Numeral
import BucketQuery.Proofs.Number.Rounding
import BucketQuery.Proofs.Operation.Aggregation
import BucketQuery.Proofs.Operation.Agreement
import BucketQuery.Proofs.Operation.Executor
import BucketQuery.Proofs.Operation.Failure
import BucketQuery.Proofs.Operation.IntegerValue
import BucketQuery.Proofs.Operation.NextPage
import BucketQuery.Proofs.Operation.Paging
import BucketQuery.Proofs.Operation.RowOrder
import BucketQuery.Proofs.Operation.RunningTotal
import BucketQuery.Proofs.Program.Kept
import BucketQuery.Proofs.Program.Layer
import BucketQuery.Proofs.Program.Script
import BucketQuery.Proofs.Program.Settings
import BucketQuery.Proofs.Query.Checked
import BucketQuery.Proofs.Query.Conjunction
import BucketQuery.Proofs.Query.Expression
import BucketQuery.Proofs.Query.Keyword
import BucketQuery.Proofs.Query.Order
import BucketQuery.Proofs.Query.Page
import BucketQuery.Proofs.Query.Reading
import BucketQuery.Proofs.Query.Statement
import BucketQuery.Proofs.Record.Conversion
import BucketQuery.Proofs.Record.Reading
import BucketQuery.Proofs.Service.Binding
import BucketQuery.Proofs.Service.Reply
import BucketQuery.Proofs.Service.Report
import BucketQuery.Proofs.Text.Character
import BucketQuery.Proofs.Text.Cut
import BucketQuery.Proofs.Text.Like
import BucketQuery.Proofs.Text.Name
import BucketQuery.Proofs.Text.Path
import BucketQuery.Proofs.Text.RegularExpression
import BucketQuery.Proofs.Text.Utf8
import BucketQuery.Proofs.Text.Word
import BucketQuery.Query.Expression
import BucketQuery.Query.Order
import BucketQuery.Query.Page
import BucketQuery.Query.Statement
import BucketQuery.Record.Basic
import BucketQuery.Record.Person
import BucketQuery.Service.Reply
import BucketQuery.Service.Request
import BucketQuery.Text.AlphanumericTable
import BucketQuery.Text.Character
import BucketQuery.Text.Debug
import BucketQuery.Text.Encoding
import BucketQuery.Text.Like
import BucketQuery.Text.Lowercase
import BucketQuery.Text.Name
