import SqlGate.Address
import SqlGate.Main
import SqlGate.Proofs.Text.Size
import SqlGate.Proofs.Text.Utf8
import SqlGate.Proofs.Text.Numeral
import SqlGate.Proofs.Wire.Fields
import SqlGate.Proofs.Wire.Reading
import SqlGate.Proofs.Wire.Numbers
import SqlGate.Proofs.Wire.Places
import SqlGate.Proofs.Wire.Prefixes
import SqlGate.Proofs.Wire.Sequences
import SqlGate.Proofs.Wire.Failing
import SqlGate.Proofs.Wire.Reads
import SqlGate.Proofs.Wire.Windows
import SqlGate.Proofs.Wire.Scripts
import SqlGate.Proofs.Wire.Framing
import SqlGate.Proofs.Packet.Size
import SqlGate.Proofs.Packet.Greeting
import SqlGate.Proofs.Packet.RoundTrip
import SqlGate.Proofs.Packet.Login
import SqlGate.Proofs.Packet.Names
import SqlGate.Proofs.Packet.Rereading
import SqlGate.Proofs.NativePassword
import SqlGate.Proofs.ConnectionId
import SqlGate.Proofs.Registry
import SqlGate.Proofs.Registry.Catalog
import SqlGate.Proofs.Registry.Listing
import SqlGate.Proofs.Config.Consistency
import SqlGate.Proofs.Config.Acceptance
import SqlGate.Proofs.Config.Registries
import SqlGate.Proofs.Config.References
import SqlGate.Proofs.Config.Overrides
import SqlGate.Proofs.Config.Spoken
import SqlGate.Proofs.Handshake.Ruling
import SqlGate.Proofs.Handshake.Turn
import SqlGate.Proofs.Handshake.Numbering
import SqlGate.Proofs.Handshake.Course
import SqlGate.Proofs.Handshake.Progress
import SqlGate.Proofs.Handshake.Decision
import SqlGate.Proofs.Handshake.Binding
import SqlGate.Proofs.Handshake.Observation
import SqlGate.Proofs.Handshake.Answers
import SqlGate.Proofs.Handshake.Client
import SqlGate.Proofs.Handshake.Ways
import SqlGate.Proofs.Handshake.Resumption
import SqlGate.Proofs.Handshake.Mirror
import SqlGate.Proofs.Handshake.Refusals
import SqlGate.Proofs.Session.Play
import SqlGate.Proofs.Session.Stream
import SqlGate.Proofs.Session.Commands
import SqlGate.Proofs.Session.Refinement
import SqlGate.Proofs.Session.Moves
import SqlGate.Proofs.Session.Delivery
import SqlGate.Proofs.Session.SchemaChoice
import SqlGate.Proofs.Session.Reloads
import SqlGate.Proofs.Session.Understanding
import SqlGate.Proofs.Session.Schedule
import SqlGate.Proofs.Session.Pace
import SqlGate.Proofs.Session.Stopping
import SqlGate.Proofs.Session.Deadline
import SqlGate.Proofs.Privacy.Accounts
import SqlGate.Proofs.Privacy.Schemas
import SqlGate.Proofs.Privacy.UnknownSchemas
