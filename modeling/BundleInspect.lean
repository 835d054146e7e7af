import BundleInspect.Text.Blank
import BundleInspect.Text.Bytes
import BundleInspect.Text.Lowercase
import BundleInspect.Decimal.Notation
import BundleInspect.Json.Printer
import BundleInspect.Json.Value
import BundleInspect.DeviceSpec.Decode
import BundleInspect.DeviceSpec.Encode
import BundleInspect.Resource.Predicate
import BundleInspect.Dump.Target
import BundleInspect.Files.Resolve
import BundleInspect.Log.Filter
import BundleInspect.Backend.Table
import BundleInspect.Program.Run
import BundleInspect.Program.Outcome
import BundleInspect.Main
import BundleInspect.Proofs.Dump.Dispatch
import BundleInspect.Proofs.Extract.Dispatch
import BundleInspect.Proofs.Resource.Selection
import BundleInspect.Proofs.Json.Grammar
import BundleInspect.Proofs.Json.Strings
import BundleInspect.Proofs.Json.Numbers
import BundleInspect.Proofs.Json.Reading
import BundleInspect.Proofs.Json.Sequences
import BundleInspect.Proofs.DeviceSpec.Language
import BundleInspect.Proofs.DeviceSpec.Sizes
import BundleInspect.Proofs.DeviceSpec.Fields
import BundleInspect.Proofs.DeviceSpec.Decoding
import BundleInspect.Proofs.DeviceSpec.RoundTrip
import BundleInspect.Proofs.DeviceSpec.Rewriting
import BundleInspect.Proofs.DeviceSpec.Places
import BundleInspect.Proofs.DeviceSpec.Ram
import BundleInspect.Proofs.Json.Truncation
import BundleInspect.Proofs.Json.TruncatedItems
import BundleInspect.Proofs.DeviceSpec.Truncation
import BundleInspect.Proofs.Dump.Drafts
import BundleInspect.Proofs.Dump.Rules
import BundleInspect.Proofs.Program.Refusals
import BundleInspect.Proofs.Program.Progress
import BundleInspect.Proofs.CommandLine.Pieces
import BundleInspect.Proofs.CommandLine.Rendering
import BundleInspect.Proofs.CommandLine.Precedence
import BundleInspect.Proofs.CommandLine.Dumps
import BundleInspect.Proofs.Program.Exits
import BundleInspect.Proofs.Program.LogChoices
import BundleInspect.Proofs.Resource.Display
import BundleInspect.Proofs.Text.Casing
import BundleInspect.Proofs.Program.Shells
import BundleInspect.Proofs.Files.Classes
import BundleInspect.Proofs.CommandLine.Repetitions
