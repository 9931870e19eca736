import DocPipeline.Json.Reading
import DocPipeline.Json.Writing
import DocPipeline.Document.Selection
import DocPipeline.Config.Coding
import DocPipeline.Event.Log
import DocPipeline.Failure.Report
import DocPipeline.Log.Format
import DocPipeline.Pipeline.Setup
import DocPipeline.Pipeline.Registry
import DocPipeline.Run.Whole
import DocPipeline.Run.Interleaving
import DocPipeline.Run.Tally
import DocPipeline.Proofs.Run.Work
import DocPipeline.Proofs.Run.Connections
import DocPipeline.Proofs.Run.Account
import DocPipeline.Proofs.Run.Conclusion
import DocPipeline.Proofs.Run.StageCalls
import DocPipeline.Proofs.Run.FirstFailure
import DocPipeline.Proofs.LastPosition
import DocPipeline.Proofs.Slots
import DocPipeline.Proofs.FirstFault
import DocPipeline.Proofs.Pipeline.Setup
import DocPipeline.Proofs.Pipeline.Registry
import DocPipeline.Proofs.Pipeline.Acceptance
import DocPipeline.Proofs.Run.Payloads
import DocPipeline.Proofs.Stage.Statistics
import DocPipeline.Proofs.Run.Report
import DocPipeline.Proofs.Run.LastWriters
import DocPipeline.Proofs.Run.Events
import DocPipeline.Proofs.Run.Dumps
import DocPipeline.Proofs.Run.Interleaving
import DocPipeline.Proofs.Run.Course
import DocPipeline.Proofs.Run.Modes
import DocPipeline.Proofs.Run.Moves
import DocPipeline.Proofs.Run.Cancellation
import DocPipeline.Proofs.Run.Settings
import DocPipeline.Proofs.Document.Reference
import DocPipeline.Proofs.Document.Tag
import DocPipeline.Proofs.Document.Address
import DocPipeline.Proofs.Document.Coding
import DocPipeline.Proofs.RunOutput
import DocPipeline.Proofs.Document.Selection
import DocPipeline.Proofs.Document.Descent
import DocPipeline.Proofs.Document.Path
import DocPipeline.Proofs.Document.RoundTrip
import DocPipeline.Proofs.Document.Grammar
import DocPipeline.Proofs.Document.Tagged
import DocPipeline.Proofs.Document.Reprint
import DocPipeline.Proofs.Document.Growth
import DocPipeline.Proofs.Document.Extension
import DocPipeline.Proofs.Document.Canonical
import DocPipeline.Proofs.Payload
import DocPipeline.Proofs.Merge.Plan
import DocPipeline.Proofs.Merge.Forms
import DocPipeline.Proofs.Merge.Splice
import DocPipeline.Proofs.Merge.Stability
import DocPipeline.Proofs.NameMap
import DocPipeline.Proofs.Json.Records
import DocPipeline.Proofs.Json.Arrangement
import DocPipeline.Proofs.Config.Coding
import DocPipeline.Proofs.Variables.Cycle
import DocPipeline.Proofs.Variables.Refusal
import DocPipeline.Proofs.Variables.Placeholder
import DocPipeline.Proofs.Variables.Parts
import DocPipeline.Proofs.Variables.Resolution
import DocPipeline.Proofs.Variables.Tidy
import DocPipeline.Proofs.Variables.Acyclic
import DocPipeline.Proofs.Variables.Again
import DocPipeline.Proofs.Variables.FixedPoint
