import SearchBridge.Export.Usage
import SearchBridge.Main
import SearchBridge.Program
import SearchBridge.Proofs.Course
import SearchBridge.Proofs.Events
import SearchBridge.Proofs.Run
import SearchBridge.Proofs.Protocol
import SearchBridge.Proofs.Drain
import SearchBridge.Proofs.Report
import SearchBridge.Proofs.Terminal
import SearchBridge.Proofs.Backpressure
import SearchBridge.Proofs.Delivery
import SearchBridge.Proofs.Turns
import SearchBridge.Proofs.Accepted
import SearchBridge.Proofs.EndToEnd
import SearchBridge.Proofs.Cancellation
import SearchBridge.Proofs.Bookkeeping
import SearchBridge.Proofs.Waiting
import SearchBridge.Proofs.Completeness
import SearchBridge.Proofs.Nesting
import SearchBridge.Proofs.Cursor
import SearchBridge.Proofs.Worker
import SearchBridge.Proofs.Interleaving
import SearchBridge.Proofs.LateBatches
import SearchBridge.Proofs.Following
import SearchBridge.Proofs.Progress
import SearchBridge.Proofs.BrokenOutput
import SearchBridge.Proofs.IdLines
import SearchBridge.Proofs.Escapes
import SearchBridge.Proofs.Numeral
import SearchBridge.Proofs.Reread
import SearchBridge.Proofs.Bindings
import SearchBridge.Proofs.Denoted
import SearchBridge.Proofs.ReadBack
import SearchBridge.Proofs.Bodies
import SearchBridge.Proofs.Grouping
import SearchBridge.Proofs.Additions
import SearchBridge.Proofs.Indexing
import SearchBridge.Proofs.RoundTrip
import SearchBridge.Proofs.Taxonomy
import SearchBridge.Proofs.Content
import SearchBridge.Proofs.Framing
import SearchBridge.Proofs.Acknowledgement
import SearchBridge.Proofs.UsableIds
import SearchBridge.Proofs.Traversal
import SearchBridge.Proofs.Directives
import SearchBridge.Proofs.ConnectionString
import SearchBridge.Proofs.Authority
import SearchBridge.Proofs.DeniedFields
import SearchBridge.Proofs.SourceFilter
import SearchBridge.Proofs.Informational
import SearchBridge.Proofs.QueryBodies
import SearchBridge.Proofs.FacetCounts
