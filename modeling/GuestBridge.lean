import GuestBridge.Main
import GuestBridge.Proofs.Word
import GuestBridge.Proofs.Frame.Reader
import GuestBridge.Proofs.Frame.Grammar
import GuestBridge.Proofs.Session.Stability
import GuestBridge.Proofs.Session.Continuity
import GuestBridge.Proofs.Session.Traces
import GuestBridge.Proofs.Nesting.Moments
import GuestBridge.Proofs.Nesting.Recording
import GuestBridge.Proofs.Nesting.Resolution
import GuestBridge.Proofs.Nesting.Guard
import GuestBridge.Proofs.Nesting.Dispatch
import GuestBridge.Proofs.Session.Obliviousness
import GuestBridge.Proofs.Schedule.Steps
import GuestBridge.Proofs.Schedule.Batching
import GuestBridge.Proofs.Screen.Cells
import GuestBridge.Proofs.Screen.Teletype
import GuestBridge.Proofs.Guest.Linking
import GuestBridge.Proofs.Guest.Compatibility
import GuestBridge.Proofs.Registry.Registration
import GuestBridge.Proofs.Nesting.Requests
import GuestBridge.Proofs.Session.Muting
import GuestBridge.Proofs.Schedule.Stopping
import GuestBridge.Proofs.Schedule.Resuming
import GuestBridge.Proofs.Registry.Announcement
import GuestBridge.Proofs.Schedule.Notifications
import GuestBridge.Proofs.CommandLine.Output
import GuestBridge.Proofs.CommandLine.Screens
import GuestBridge.Proofs.Guest.Signatures
import GuestBridge.Proofs.Guest.Booting
import GuestBridge.Proofs.Json.Grammar
import GuestBridge.Proofs.Json.Members
import GuestBridge.Proofs.Json.Printing
import GuestBridge.Proofs.Settings.Printing
import GuestBridge.Proofs.Wire.Texts
import GuestBridge.Proofs.Frame.Faults
import GuestBridge.Proofs.Nesting.TypedFunctions
import GuestBridge.Proofs.Arena.Ledger
import GuestBridge.Proofs.Arena.Course
import GuestBridge.Proofs.Arena.Texts
import GuestBridge.Proofs.Frame.Defects
import GuestBridge.Proofs.Arena.Grants
import GuestBridge.Proofs.Number.Expansion
import GuestBridge.Proofs.Number.Rounding
import GuestBridge.Proofs.Nesting.Propagation
import GuestBridge.Proofs.Registry.FiniteMap
import GuestBridge.Proofs.Screen.Rendering
import GuestBridge.Proofs.Registry.Bulk
import GuestBridge.Proofs.Guest.Heap
import GuestBridge.Proofs.Arena.TextFiles
import GuestBridge.Proofs.Settings.Overrides
import GuestBridge.Proofs.Screen.Statements
import GuestBridge.Proofs.Frame.Cursor
import GuestBridge.Proofs.Frame.Successive
import GuestBridge.Proofs.Wire.Delimiting
import GuestBridge.Proofs.Registry.Description
