import BenchReport.Analysis
import BenchReport.CommandLine.Given
import BenchReport.CommandLine.Message
import BenchReport.CommandLine.Opt
import BenchReport.CommandLine.Reading
import BenchReport.Decimal.Numeral
import BenchReport.Decimal.Places
import BenchReport.Decimal.Shortest
import BenchReport.Expression.Nesting
import BenchReport.Expression.Reader
import BenchReport.Files.Lookup
import BenchReport.Files.Path
import BenchReport.Files.RawText
import BenchReport.Files.Reading
import BenchReport.Files.Tree
import BenchReport.Files.Writing
import BenchReport.Grouping
import BenchReport.Inputs
import BenchReport.Instant
import BenchReport.Json.Container
import BenchReport.Json.Fault
import BenchReport.Json.Number
import BenchReport.Json.Quoted
import BenchReport.Json.Reader
import BenchReport.Json.Record
import BenchReport.Json.Skip
import BenchReport.Json.Value
import BenchReport.Keyed
import BenchReport.Log.Event
import BenchReport.Log.Filter
import BenchReport.Main
import BenchReport.Measurement
import BenchReport.Measurement.Text
import BenchReport.Program
import BenchReport.Proofs.Analysis.Fastest
import BenchReport.Proofs.Analysis.FirstLeast
import BenchReport.Proofs.Analysis.Peak
import BenchReport.Proofs.CommandLine.Choice
import BenchReport.Proofs.CommandLine.Given
import BenchReport.Proofs.CommandLine.Spelling
import BenchReport.Proofs.Decimal.Binary64
import BenchReport.Proofs.Decimal.Digits
import BenchReport.Proofs.Decimal.Finite
import BenchReport.Proofs.Decimal.Order
import BenchReport.Proofs.Decimal.Ordinary
import BenchReport.Proofs.Decimal.Places
import BenchReport.Proofs.Decimal.Products
import BenchReport.Proofs.Decimal.Rounding
import BenchReport.Proofs.Decimal.Shortest
import BenchReport.Proofs.Files.Again
import BenchReport.Proofs.Files.Agree
import BenchReport.Proofs.Files.Enumeration
import BenchReport.Proofs.Files.Growth
import BenchReport.Proofs.Files.Lookup
import BenchReport.Proofs.Files.Path
import BenchReport.Proofs.Files.RawText
import BenchReport.Proofs.Files.Rewriting
import BenchReport.Proofs.Files.Way
import BenchReport.Proofs.Files.Writing
import BenchReport.Proofs.Grouping.Pushes
import BenchReport.Proofs.Grouping.Workloads
import BenchReport.Proofs.Inputs.Accounts
import BenchReport.Proofs.Inputs.Enumeration
import BenchReport.Proofs.Inputs.Growth
import BenchReport.Proofs.Inputs.Listing
import BenchReport.Proofs.Instant.Rfc3339
import BenchReport.Proofs.Json.Blank
import BenchReport.Proofs.Json.Containers
import BenchReport.Proofs.Json.Grammar
import BenchReport.Proofs.Json.Meaning
import BenchReport.Proofs.Json.Numeral
import BenchReport.Proofs.Json.Outcome
import BenchReport.Proofs.Json.Passing
import BenchReport.Proofs.Json.Printed
import BenchReport.Proofs.Json.Real
import BenchReport.Proofs.Json.Record
import BenchReport.Proofs.Json.Rewriting
import BenchReport.Proofs.Json.Spelling
import BenchReport.Proofs.Json.Tree
import BenchReport.Proofs.Json.Unread
import BenchReport.Proofs.Json.Yielded
import BenchReport.Proofs.Keyed
import BenchReport.Proofs.Measurement.Finite
import BenchReport.Proofs.Measurement.Text
import BenchReport.Proofs.Quantity.Characters
import BenchReport.Proofs.Quantity.Range
import BenchReport.Proofs.Quantity.Thousands
import BenchReport.Proofs.Report.Accounts
import BenchReport.Proofs.Report.Bars
import BenchReport.Proofs.Report.Summary
import BenchReport.Proofs.Run.Faults
import BenchReport.Proofs.Run.Outputs
import BenchReport.Proofs.Run.Repetition
import BenchReport.Proofs.Scaling.Numbers
import BenchReport.Proofs.Scaling.Points
import BenchReport.Proofs.Snapshot.Readable
import BenchReport.Proofs.Snapshot.Text
import BenchReport.Proofs.Text.Lines
import BenchReport.Proofs.Text.Mending
import BenchReport.Proofs.Text.Pattern
import BenchReport.Proofs.Text.Runs
import BenchReport.Proofs.Text.Utf8
import BenchReport.Proofs.Timing.Bytes
import BenchReport.Proofs.Timing.Joining
import BenchReport.Proofs.Timing.Lookahead
import BenchReport.Proofs.Timing.Names
import BenchReport.Proofs.Timing.Pattern
import BenchReport.Proofs.Timing.Reading
import BenchReport.Proofs.Timing.Roles
import BenchReport.Proofs.Timing.Written
import BenchReport.Quantity
import BenchReport.Report
import BenchReport.Run
import BenchReport.Scaling
import BenchReport.Settings
import BenchReport.Snapshot
import BenchReport.Snapshot.Text
import BenchReport.Text.Case
import BenchReport.Text.CaseTable
import BenchReport.Text.Control
import BenchReport.Text.Letter
import BenchReport.Text.Lines
import BenchReport.Text.Pattern
import BenchReport.Text.Quoted
import BenchReport.Text.Similarity
import BenchReport.Text.Styled
import BenchReport.Text.Utf8
import BenchReport.Timing
import BenchReport.Timing.Line
import BenchReport.Timing.Pattern
import BenchReport.Timing.Scanner
