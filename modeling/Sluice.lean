import Sluice.Calendar
import Sluice.Number.Decimal
import Sluice.Number.Shortest
import Sluice.Text.Blank
import Sluice.Text.Lower
import Sluice.Text.Upper
import Sluice.Text.Word
import Sluice.Value.Size
import Sluice.Value.Key
import Sluice.Json.Writer
import Sluice.Config.Reader
import Sluice.Record.Transformer
import Sluice.Batch
import Sluice.Metrics
import Sluice.Store.Backend
import Sluice.Store.Scripted
import Sluice.Sink.Execution
import Sluice.Config.Template
import Sluice.Exchange.Tables
import Sluice.Sink.Held
import Sluice.Log.Message
import Sluice.Config.File
import Sluice.Input.Format
import Sluice.Exchange.Outcomes
import Sluice.Main
import Sluice.Proofs.Sink.ExactlyOnce
import Sluice.Proofs.Parallel.Handled
import Sluice.Proofs.Parallel.Stopped
import Sluice.Proofs.Commit.Course
import Sluice.Proofs.Commit.Classified
import Sluice.Proofs.Record.Steady
import Sluice.Proofs.Value.Key
import Sluice.Proofs.Store.Table
import Sluice.Proofs.Store.Stalls
import Sluice.Proofs.Record.Operation
import Sluice.Proofs.Sink.Undisturbed
import Sluice.Proofs.Parallel.Within
import Sluice.Proofs.Parallel.Undisturbed
import Sluice.Proofs.Parallel.Agreement
import Sluice.Proofs.Parallel.Bounded
import Sluice.Proofs.Store.Serial
import Sluice.Proofs.Commit.Acknowledged
import Sluice.Proofs.Sink.Planned
import Sluice.Proofs.Sink.Carried
import Sluice.Proofs.Batch.Partition
import Sluice.Proofs.Config.Read
import Sluice.Proofs.Parallel.Progress
import Sluice.Proofs.Sink.Closed
import Sluice.Proofs.Sql.Bracket
import Sluice.Proofs.Sql.Bound
import Sluice.Proofs.Record.Conforming
import Sluice.Proofs.Sink.Series
import Sluice.Proofs.Cloud.Keys
import Sluice.Proofs.Config.Load
import Sluice.Proofs.Number.Exact
import Sluice.Proofs.Record.Walk
import Sluice.Proofs.Record.Native
import Sluice.Proofs.Record.Numeric
import Sluice.Proofs.Record.FirstFault
import Sluice.Proofs.Record.Undeclared
import Sluice.Proofs.Record.Widening
import Sluice.Proofs.Batch.Fewest
import Sluice.Proofs.Store.Keyed
import Sluice.Proofs.Sql.Binding
import Sluice.Proofs.Schema.Columns
import Sluice.Proofs.Sql.Definition
import Sluice.Proofs.Text.Trim
import Sluice.Proofs.Cloud.Carried
import Sluice.Proofs.Schema.TypeText
import Sluice.Proofs.Config.Verbatim
import Sluice.Proofs.Config.SinkName
import Sluice.Proofs.Number.Parts
import Sluice.Proofs.Arrow.Aligned
import Sluice.Proofs.Sql.Instants
import Sluice.Proofs.Schema.Complete
