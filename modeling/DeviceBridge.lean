import DeviceBridge.Arguments
import DeviceBridge.Behaviour.Basic
import DeviceBridge.Behaviour.Scripted
import DeviceBridge.Choice
import DeviceBridge.CommandLine.Arguments
import DeviceBridge.CommandLine.Basic
import DeviceBridge.CommandLine.Manual
import DeviceBridge.CommandLine.Report
import DeviceBridge.Config.Basic
import DeviceBridge.Config.Document
import DeviceBridge.Decimal.Reading
import DeviceBridge.Decimal.Shortest
import DeviceBridge.Decimal.Style
import DeviceBridge.Declaration.Basic
import DeviceBridge.Declaration.Invocation
import DeviceBridge.Device.Basic
import DeviceBridge.Device.Catalogue
import DeviceBridge.Device.Chest
import DeviceBridge.Device.Drive
import DeviceBridge.Device.Sensor
import DeviceBridge.Device.Speaker
import DeviceBridge.Entries
import DeviceBridge.Failure
import DeviceBridge.Files.Mount
import DeviceBridge.Files.Path
import DeviceBridge.Files.System
import DeviceBridge.Files.Volume
import DeviceBridge.Generator.Basic
import DeviceBridge.Generator.Trampoline
import DeviceBridge.Host.Basic
import DeviceBridge.Host.Run
import DeviceBridge.Host.Services
import DeviceBridge.Host.Tasks
import DeviceBridge.Json.Basic
import DeviceBridge.Json.Reader
import DeviceBridge.LogLevel
import DeviceBridge.Machine.Basic
import DeviceBridge.Machine.Registry
import DeviceBridge.Main
import DeviceBridge.Object
import DeviceBridge.Program.Basic
import DeviceBridge.Program.Request
import DeviceBridge.Proofs.Files.Leases
import DeviceBridge.Proofs.Files.Mounted
import DeviceBridge.Proofs.Files.Ownership
import DeviceBridge.Proofs.Files.Paths
import DeviceBridge.Proofs.Generator.Building
import DeviceBridge.Proofs.Generator.Caching
import DeviceBridge.Proofs.Generator.Marshalling
import DeviceBridge.Proofs.Generator.Redirection
import DeviceBridge.Proofs.Host.Links
import DeviceBridge.Proofs.Host.Paths
import DeviceBridge.Proofs.Host.Queues
import DeviceBridge.Proofs.Host.Run
import DeviceBridge.Proofs.Host.Services
import DeviceBridge.Proofs.Host.Trace
import DeviceBridge.Proofs.Machine.Accounting
import DeviceBridge.Proofs.Machine.Answers
import DeviceBridge.Proofs.Machine.Chronicle
import DeviceBridge.Proofs.Machine.Delivery
import DeviceBridge.Proofs.Machine.ExactlyOnce
import DeviceBridge.Proofs.Machine.Faults
import DeviceBridge.Proofs.Machine.Moves
import DeviceBridge.Proofs.Machine.Recording
import DeviceBridge.Proofs.Machine.Runs
import DeviceBridge.Proofs.Registry.Changes
import DeviceBridge.Proofs.Registry.Detaches
import DeviceBridge.Proofs.Registry.Frame
import DeviceBridge.Proofs.Registry.Hooks
import DeviceBridge.Proofs.Registry.Lifecycle
import DeviceBridge.Proofs.Registry.Refinement
import DeviceBridge.Proofs.Registry.Stranding
import DeviceBridge.Proofs.Registry.Table
import DeviceBridge.Proofs.Registry.Turns
import DeviceBridge.Proofs.Script.Alone
import DeviceBridge.Proofs.Script.Attribution
import DeviceBridge.Proofs.Script.Faults
import DeviceBridge.Proofs.Script.Waits
import DeviceBridge.Ron.Basic
import DeviceBridge.Ron.Number
import DeviceBridge.Ron.Quoted
import DeviceBridge.Ron.Reader
import DeviceBridge.Ron.Word
import DeviceBridge.Script.Call
import DeviceBridge.Script.Thread
import DeviceBridge.Session.Basic
import DeviceBridge.Session.Document
import DeviceBridge.Side
import DeviceBridge.TaskQueue
import DeviceBridge.Text.Identifier
import DeviceBridge.Text.Quoted
import DeviceBridge.Text.Unprintable
import DeviceBridge.Value.Basic
import DeviceBridge.Value.Text
import DeviceBridge.Proofs.Files.Resolution
import DeviceBridge.Proofs.Files.Volumes
import DeviceBridge.Proofs.Files.Listings
import DeviceBridge.Proofs.Files.Extension
import DeviceBridge.Proofs.Registry.Closing
import DeviceBridge.Proofs.Registry.Routing
import DeviceBridge.Proofs.Files.Placement
import DeviceBridge.Proofs.Files.Atomicity
import DeviceBridge.Proofs.Machine.Sessions
import DeviceBridge.Proofs.Drives.Ejection
import DeviceBridge.Proofs.Files.Layers
import DeviceBridge.Proofs.Files.Sizes
import DeviceBridge.Proofs.Files.Writes
import DeviceBridge.Proofs.Generator.Accessors
import DeviceBridge.Proofs.Machine.Keeping
import DeviceBridge.Proofs.Machine.Supplies
import DeviceBridge.Proofs.Registry.Methods
import DeviceBridge.Proofs.Generator.Simplicity
import DeviceBridge.Proofs.Machine.Lifetimes
import DeviceBridge.Proofs.Registry.Reseating
import DeviceBridge.Proofs.Registry.Restraint
import DeviceBridge.Proofs.Drives.Offers
import DeviceBridge.Proofs.Drives.Coherence
import DeviceBridge.Proofs.Arguments.Windows
import DeviceBridge.Proofs.Files.Blame
import DeviceBridge.Proofs.Machine.Recovery
import DeviceBridge.Proofs.Machine.Strides
import DeviceBridge.Proofs.Machine.Lifelines
import DeviceBridge.Proofs.Machine.Pulls
import DeviceBridge.Proofs.Machine.Wakeups
import DeviceBridge.Proofs.Files.NormalForms
import DeviceBridge.Proofs.Generator.Conversions
import DeviceBridge.Proofs.Chests.Slots
import DeviceBridge.Proofs.Chests.Inventory
import DeviceBridge.Proofs.Values.Members
