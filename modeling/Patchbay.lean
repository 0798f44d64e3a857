import Patchbay.Annotate
import Patchbay.CommandLine
import Patchbay.Compile
import Patchbay.Config.Files
import Patchbay.Config.Printer
import Patchbay.Engine.Scripted
import Patchbay.Engine.Virtual
import Patchbay.Main
import Patchbay.Preset
import Patchbay.Proofs.Address
import Patchbay.Proofs.Annotate.Again
import Patchbay.Proofs.Annotate.Carried
import Patchbay.Proofs.Annotate.Places
import Patchbay.Proofs.Annotate.RoundTrip
import Patchbay.Proofs.Bindings
import Patchbay.Proofs.Bindings.History
import Patchbay.Proofs.CommandLine.Compile
import Patchbay.Proofs.CommandLine.Frame
import Patchbay.Proofs.Compile.Authored
import Patchbay.Proofs.Compile.Complete
import Patchbay.Proofs.Compile.Errors
import Patchbay.Proofs.Compile.Links
import Patchbay.Proofs.Compile.Mains
import Patchbay.Proofs.Compile.Matching
import Patchbay.Proofs.Compile.Order
import Patchbay.Proofs.Compile.Rearranged
import Patchbay.Proofs.Compile.Recorded
import Patchbay.Proofs.Compile.Renaming
import Patchbay.Proofs.Compile.Requests
import Patchbay.Proofs.Compile.Schedule
import Patchbay.Proofs.Compile.Steps
import Patchbay.Proofs.Compile.Success
import Patchbay.Proofs.Compile.Virtual
import Patchbay.Proofs.Compile.Whole
import Patchbay.Proofs.Config.Expansion
import Patchbay.Proofs.Config.Overrides
import Patchbay.Proofs.Config.Printed
import Patchbay.Proofs.Document.Levels
import Patchbay.Proofs.Document.Meaning
import Patchbay.Proofs.Document.Preserved
import Patchbay.Proofs.Document.Resemblance
import Patchbay.Proofs.Document.Validity
import Patchbay.Proofs.Engine.Consistency
import Patchbay.Proofs.Engine.Exchanges
import Patchbay.Proofs.Engine.Failing
import Patchbay.Proofs.Engine.Frame
import Patchbay.Proofs.Engine.History
import Patchbay.Proofs.Engine.Ports
import Patchbay.Proofs.Engine.Reuse
import Patchbay.Proofs.Engine.Virtual
import Patchbay.Proofs.Files.Atomic
import Patchbay.Proofs.Files.Saving
import Patchbay.Proofs.Files.Tree
import Patchbay.Proofs.Graph.Arena
import Patchbay.Proofs.Graph.Flattening
import Patchbay.Proofs.Graph.Keys
import Patchbay.Proofs.Graph.Validity
import Patchbay.Proofs.Graph.WellFormed
import Patchbay.Proofs.InPlace.Links
import Patchbay.Proofs.InPlace.Mains
import Patchbay.Proofs.InPlace.Places
import Patchbay.Proofs.InPlace.Requests
import Patchbay.Proofs.InPlace.Simulation
import Patchbay.Proofs.InPlace.Steps
import Patchbay.Proofs.InPlace.Writing
import Patchbay.Proofs.Json.Sorted
import Patchbay.Proofs.Runs
import Patchbay.Proofs.Simulation
import Patchbay.Proofs.Supervision.Shutdown
import Patchbay.Proofs.Toml.Layers
import Patchbay.Supervision.Timeline
