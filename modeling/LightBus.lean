import LightBus.Limits
import LightBus.Bytes
import LightBus.Uid
import LightBus.Address
import LightBus.Command
import LightBus.ParameterId
import LightBus.Payload
import LightBus.Checksum
import LightBus.Package.View
import LightBus.MuteReply
import LightBus.DeviceInfo
import LightBus.Schema.Codec
import LightBus.Schema.InPlace
import LightBus.Responder.Poll
import LightBus.Discovery.Branch
import LightBus.Discovery.Reply
import LightBus.Discovery.Search
import LightBus.Timing.Measure
import LightBus.Timing.Spacing
import LightBus.Bus
import LightBus.Bus.Trace
import LightBus.Hardware.Interrupts
import LightBus.Hardware
import LightBus.Port
import LightBus.Session.Links
import LightBus.Simulation.Application
import LightBus.Simulation.Bench
import LightBus.Simulation.Line
import LightBus.Simulation.Links
import LightBus.Simulation.Population
import LightBus.Proofs.Addressing
import LightBus.Proofs.Package.RoundTrip
import LightBus.Proofs.Package.Stamping
import LightBus.Proofs.Package.Numbering
import LightBus.Proofs.Bus.Reachable
import LightBus.Proofs.Bus.Reception
import LightBus.Proofs.Bus.Steps
import LightBus.Proofs.Bus.Listening
import LightBus.Proofs.Bus.Answers
import LightBus.Proofs.Bus.Transmission
import LightBus.Proofs.Bus.Coupling
import LightBus.Proofs.Bus.Frames
import LightBus.Proofs.Session.Keeps
import LightBus.Proofs.Session.Reception
import LightBus.Proofs.Session.Surroundings
import LightBus.Proofs.Session.Sending
import LightBus.Proofs.Session.Calls
import LightBus.Proofs.Session.Watching
import LightBus.Proofs.Session.Resting
import LightBus.Proofs.Session.InFlight
import LightBus.Proofs.Session.Spacing
import LightBus.Proofs.Session.Numbering
import LightBus.Proofs.Session.Traces
import LightBus.Proofs.Session.Probing
import LightBus.Proofs.Port.Effects
import LightBus.Proofs.Port.Coupling
import LightBus.Proofs.Port.Masks
import LightBus.Proofs.Port.Clock
import LightBus.Proofs.Port.Runs
import LightBus.Proofs.Port.Completion
import LightBus.Proofs.Port.Faults
import LightBus.Proofs.Simulation.Line
import LightBus.Proofs.Simulation.Bench
import LightBus.Proofs.Simulation.Reception
import LightBus.Proofs.Responder.Speaking
import LightBus.Proofs.Discovery.Stack
import LightBus.Proofs.Discovery.Devices
import LightBus.Proofs.Discovery.Population
import LightBus.Proofs.Discovery.Visit
import LightBus.Proofs.Discovery.Coverage
import LightBus.Proofs.Schema.RoundTrip
import LightBus.Proofs.Dictionary.Reachable
import LightBus.Proofs.Responder.Reachable
import LightBus.Proofs.Responder.Correlation
import LightBus.Proofs.Simulation.Loopback
import LightBus.Proofs.Responder.Discovery
import LightBus.Proofs.Schema.Reading
import LightBus.Proofs.Dictionary.Calls
import LightBus.Proofs.Dictionary.Values
import LightBus.Proofs.Dictionary.Overlap
import LightBus.Proofs.Responder.Stored
import LightBus.Proofs.Responder.DataTypes
import LightBus.Proofs.Session.Failing
import LightBus.Proofs.Dictionary.Queue
import LightBus.Proofs.Dictionary.Announcing
import LightBus.Proofs.Bus.Delivery
import LightBus.Proofs.Responder.Standard
import LightBus.Proofs.Responder.SubDevices
import LightBus.Proofs.Responder.Fetching
import LightBus.Proofs.Responder.Defaults
import LightBus.Proofs.Responder.Validity
import LightBus.Proofs.Bus.Turnaround
import LightBus.Proofs.Session.Answering
import LightBus.Proofs.Responder.Polling
import LightBus.Proofs.Controller.Acceptance
import LightBus.Proofs.Package.Views
import LightBus.Proofs.Bus.OwnRequests
import LightBus.Proofs.Discovery.Rounds
import LightBus.Proofs.Discovery.Reversals
import LightBus.Proofs.Bus.Learning
import LightBus.Proofs.Bus.Ranges
import LightBus.Proofs.Bus.Checked
import LightBus.Proofs.Port.Sharing
import LightBus.Proofs.Package.Corruption
import LightBus.Proofs.Discovery.Corruption
import LightBus.Proofs.Bus.Timeouts
import LightBus.Proofs.Session.Ending
import LightBus.Proofs.Session.Deadlines
import LightBus.Proofs.Schema.Accounting
import LightBus.Proofs.Timing.Measuring
import LightBus.Proofs.Timing.Generating
import LightBus.Proofs.Identifiers
import LightBus.Proofs.Payloads
import LightBus.Proofs.Responder.Operation
import LightBus.Proofs.Simulation.Listing
import LightBus.Proofs.Responder.Describing
import LightBus.Proofs.Simulation.Searching
