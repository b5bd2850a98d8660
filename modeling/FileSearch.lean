import FileSearch.Query.Filter
import FileSearch.Hit.Aggregate
import FileSearch.Yaml.Reader
import FileSearch.Config.Load
import FileSearch.History.Store
import FileSearch.Search.Service
import FileSearch.Output.Writer
import FileSearch.Command.Run
import FileSearch.Main
import FileSearch.Proofs.Query.Reduction
import FileSearch.Proofs.Query.Expression
import FileSearch.Proofs.Query.LeftToRight
import FileSearch.Proofs.History.Actions
import FileSearch.Proofs.Hit.Grouping
import FileSearch.Proofs.Search.Asking
import FileSearch.Proofs.Search.Pipeline
import FileSearch.Proofs.History.Migrating
import FileSearch.Proofs.History.Recency
import FileSearch.Proofs.History.Recounting
import FileSearch.Proofs.History.Tracking
import FileSearch.Proofs.Query.Nesting
import FileSearch.Proofs.Query.Shape
import FileSearch.Proofs.Query.Legible
import FileSearch.Proofs.Query.Leaves
import FileSearch.Proofs.Query.Display
import FileSearch.Proofs.Json.Scalars
import FileSearch.Proofs.Json.Readback
import FileSearch.Proofs.Files.Places
import FileSearch.Proofs.Files.Folders
import FileSearch.Proofs.Hit.Records
import FileSearch.Proofs.Output.Saving
import FileSearch.Proofs.History.Steady
import FileSearch.Proofs.History.Lasting
import FileSearch.Proofs.History.Durable
import FileSearch.Proofs.History.Overwriting
import FileSearch.Proofs.Hit.Merging
import FileSearch.Proofs.History.Recalling
import FileSearch.Proofs.Search.Repeating
import FileSearch.Proofs.Query.SafeNames
import FileSearch.Proofs.Log.Writing
import FileSearch.Proofs.Search.Failing
import FileSearch.Proofs.Search.Storage
import FileSearch.Proofs.Search.Recall
import FileSearch.Proofs.Command.Failing
import FileSearch.Proofs.Hit.Listing
import FileSearch.Proofs.Query.Balance
import FileSearch.Proofs.Query.Composing
import FileSearch.Proofs.Config.Reading
import FileSearch.Proofs.Config.Validity
import FileSearch.Proofs.Search.Wiring
import FileSearch.Proofs.Query.Negating
import FileSearch.Proofs.Search.Caching
import FileSearch.Proofs.History.Blocking
import FileSearch.Proofs.Command.Breaking
import FileSearch.Proofs.Query.Recursion
import FileSearch.Proofs.Query.Recovering
import FileSearch.Proofs.Query.Growing
import FileSearch.Proofs.Query.Separating
import FileSearch.Proofs.Hit.Remerging
import FileSearch.Proofs.Hit.Keys
import FileSearch.Proofs.Search.Agreeing
import FileSearch.Proofs.Search.Isolating
import FileSearch.Proofs.History.Pending
import FileSearch.Proofs.History.Partial
import FileSearch.Proofs.Hit.Coding
import FileSearch.Proofs.Hit.Documents
import FileSearch.Proofs.Hit.Passthrough
import FileSearch.Proofs.Yaml.Layering
import FileSearch.Proofs.Decimal.Rounding
import FileSearch.Proofs.Output.Sizes
import FileSearch.Proofs.Config.Extension
import FileSearch.Proofs.Calendar.Stamps
import FileSearch.Proofs.Files.Texts
import FileSearch.Proofs.Search.Sparing
import FileSearch.Proofs.Output.Naming
import FileSearch.Proofs.Command.Keeping
import FileSearch.Proofs.Command.Results
import FileSearch.Proofs.Text.Lines
import FileSearch.Proofs.Output.Framing
