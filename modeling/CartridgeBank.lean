import CartridgeBank.Bytes
import CartridgeBank.Client
import CartridgeBank.CommandLine
import CartridgeBank.Config
import CartridgeBank.Config.Json
import CartridgeBank.Config.Reading
import CartridgeBank.Config.Toml
import CartridgeBank.Device
import CartridgeBank.Document
import CartridgeBank.Fault
import CartridgeBank.Frame
import CartridgeBank.FrameCache
import CartridgeBank.Geometry
import CartridgeBank.Hexadecimal
import CartridgeBank.HitRate
import CartridgeBank.Invocation
import CartridgeBank.Json.Grammar
import CartridgeBank.Json.Printer
import CartridgeBank.Json.Value
import CartridgeBank.Line
import CartridgeBank.Main
import CartridgeBank.Network
import CartridgeBank.Opcode
import CartridgeBank.Ownership
import CartridgeBank.QuotedPath
import CartridgeBank.Registry
import CartridgeBank.Rehearsal
import CartridgeBank.Relay
import CartridgeBank.RoundTrip
import CartridgeBank.Storage.Basic
import CartridgeBank.Storage.Files
import CartridgeBank.Storage.Power
import CartridgeBank.Storage.Transfer
import CartridgeBank.Storage.Write
import CartridgeBank.Tape
import CartridgeBank.Toml.Grammar
import CartridgeBank.Toml.Node
import CartridgeBank.Toml.Scalar
import CartridgeBank.Toml.Text
import CartridgeBank.Toml.Writer
import CartridgeBank.Transport
import CartridgeBank.Unicode.Extending
import CartridgeBank.Unicode.Invisible
import CartridgeBank.Unicode.Ranges
import CartridgeBank.Wire.Message
import CartridgeBank.Wire.Source
import CartridgeBank.Proofs.FrameCache
import CartridgeBank.Proofs.Geometry
import CartridgeBank.Proofs.Ownership
import CartridgeBank.Proofs.Frame
import CartridgeBank.Proofs.Operation
import CartridgeBank.Proofs.Registry
import CartridgeBank.Proofs.Transfer
import CartridgeBank.Proofs.Storing
import CartridgeBank.Proofs.Books
import CartridgeBank.Proofs.Powering
import CartridgeBank.Proofs.Calls
import CartridgeBank.Proofs.Soundness
import CartridgeBank.Proofs.Atomicity
import CartridgeBank.Proofs.Device
import CartridgeBank.Proofs.Relays
import CartridgeBank.Proofs.Coherence
import CartridgeBank.Proofs.Reference
import CartridgeBank.Proofs.Quiet
import CartridgeBank.Proofs.Refinement
import CartridgeBank.Proofs.Recency
import CartridgeBank.Proofs.Stamps
import CartridgeBank.Proofs.Replacement
import CartridgeBank.Proofs.Wire
import CartridgeBank.Proofs.Serving
import CartridgeBank.Proofs.Dialogue
import CartridgeBank.Proofs.Lockstep
import CartridgeBank.Proofs.Coupling
import CartridgeBank.Proofs.Mirrors
import CartridgeBank.Proofs.Transparency
import CartridgeBank.Proofs.Errands
import CartridgeBank.Proofs.Acceptance
import CartridgeBank.Proofs.Session
import CartridgeBank.Proofs.Settled
import CartridgeBank.Proofs.Aim
import CartridgeBank.Proofs.Framing
import CartridgeBank.Proofs.Connection
import CartridgeBank.Proofs.Confinement
import CartridgeBank.Proofs.Direct
import CartridgeBank.Proofs.FailedWrite
import CartridgeBank.Proofs.Script
import CartridgeBank.Proofs.Startup
import CartridgeBank.Proofs.Inclusion
import CartridgeBank.Proofs.RequestStream
import CartridgeBank.Proofs.DeviceLog
import CartridgeBank.Proofs.Toml.Numerals
import CartridgeBank.Proofs.Toml.Quoting
import CartridgeBank.Proofs.Toml.Lines
import CartridgeBank.Proofs.Toml.Integers
import CartridgeBank.Proofs.SavedConfig
import CartridgeBank.Proofs.Holdings
import CartridgeBank.Proofs.FirstFit
import CartridgeBank.Proofs.FaultKinds
import CartridgeBank.Proofs.Refusals
import CartridgeBank.Proofs.Guarded
import CartridgeBank.Proofs.GuardedRead
import CartridgeBank.Proofs.GuardedWrite
import CartridgeBank.Proofs.GuardedCalls
import CartridgeBank.Proofs.Slots
import CartridgeBank.Proofs.AnswerStream
import CartridgeBank.Proofs.Arrival
import CartridgeBank.Proofs.Deliveries
import CartridgeBank.Proofs.Loads
import CartridgeBank.Proofs.Undisturbed
import CartridgeBank.Proofs.Sweeps
import CartridgeBank.Proofs.Economy
import CartridgeBank.Proofs.Accounting
import CartridgeBank.Proofs.Packing
import CartridgeBank.Proofs.Indexing
import CartridgeBank.Proofs.Orderly
import CartridgeBank.Proofs.Lingering
import CartridgeBank.Proofs.Orders
import CartridgeBank.Proofs.Injection
import CartridgeBank.Proofs.Splitting
import CartridgeBank.Proofs.Copying
import CartridgeBank.Proofs.RoundTrip
