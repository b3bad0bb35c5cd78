import SdBridge.AddressSpace
import SdBridge.Affinity
import SdBridge.Bridge.Access
import SdBridge.Bridge.Exchange
import SdBridge.Bridge.Transfer
import SdBridge.Bytes
import SdBridge.Card
import SdBridge.Card.Command
import SdBridge.Card.Commands
import SdBridge.Card.Data
import SdBridge.Card.Registers
import SdBridge.Card.Status
import SdBridge.Card.Ticket
import SdBridge.Clock
import SdBridge.Crc
import SdBridge.Device
import SdBridge.Event.Drain
import SdBridge.Event.Kind
import SdBridge.Event.Payload
import SdBridge.Event.Record
import SdBridge.Event.Ring
import SdBridge.Event.Slot
import SdBridge.Fault
import SdBridge.FileTree
import SdBridge.Image.File
import SdBridge.Image.Made
import SdBridge.Image.Memory
import SdBridge.Image.Store
import SdBridge.IoError
import SdBridge.Log
import SdBridge.Log.Filter
import SdBridge.Log.Line
import SdBridge.Log.Pattern
import SdBridge.Log.Pattern.Atom
import SdBridge.Log.Pattern.Class
import SdBridge.Log.Pattern.Flags
import SdBridge.Log.Rule
import SdBridge.Log.Threshold
import SdBridge.Main
import SdBridge.Mapping
import SdBridge.NearestFloat
import SdBridge.Options
import SdBridge.Options.CommandLine
import SdBridge.Options.Error
import SdBridge.Options.Given
import SdBridge.Options.Names
import SdBridge.Program
import SdBridge.Proofs.Bridge.Acknowledging
import SdBridge.Proofs.Bridge.Answering
import SdBridge.Proofs.Bridge.Apart
import SdBridge.Proofs.Bridge.Bounds
import SdBridge.Proofs.Bridge.Carrying
import SdBridge.Proofs.Bridge.Course
import SdBridge.Proofs.Bridge.Events
import SdBridge.Proofs.Bridge.Faultless
import SdBridge.Proofs.Bridge.Footprint
import SdBridge.Proofs.Bridge.History
import SdBridge.Proofs.Bridge.InFlight
import SdBridge.Proofs.Bridge.Kinds
import SdBridge.Proofs.Bridge.Leftovers
import SdBridge.Proofs.Bridge.Notice
import SdBridge.Proofs.Bridge.Offering
import SdBridge.Proofs.Bridge.Origin
import SdBridge.Proofs.Bridge.Packing
import SdBridge.Proofs.Bridge.Queueing
import SdBridge.Proofs.Bridge.Reading
import SdBridge.Proofs.Bridge.Refusal
import SdBridge.Proofs.Bridge.Rejecting
import SdBridge.Proofs.Bridge.Sectors
import SdBridge.Proofs.Bridge.Sending
import SdBridge.Proofs.Bridge.Serving
import SdBridge.Proofs.Bridge.Settling
import SdBridge.Proofs.Bridge.Steady
import SdBridge.Proofs.Bridge.Taking
import SdBridge.Proofs.Bridge.Traffic
import SdBridge.Proofs.Bridge.Transcript
import SdBridge.Proofs.Bridge.Transmitting
import SdBridge.Proofs.Bridge.Unperturbed
import SdBridge.Proofs.Bridge.Watch
import SdBridge.Proofs.Card.Acceptance
import SdBridge.Proofs.Card.Answer
import SdBridge.Proofs.Card.Asking
import SdBridge.Proofs.Card.Capacity
import SdBridge.Proofs.Card.Coherence
import SdBridge.Proofs.Card.Dialogue
import SdBridge.Proofs.Card.Failing
import SdBridge.Proofs.Card.Handling
import SdBridge.Proofs.Card.Handshake
import SdBridge.Proofs.Card.Identity
import SdBridge.Proofs.Card.Obtaining
import SdBridge.Proofs.Card.Posting
import SdBridge.Proofs.Card.Posts
import SdBridge.Proofs.Card.Prefix
import SdBridge.Proofs.Card.Read
import SdBridge.Proofs.Card.Refusal
import SdBridge.Proofs.Card.Rejection
import SdBridge.Proofs.Card.Reply
import SdBridge.Proofs.Card.Reporting
import SdBridge.Proofs.Card.Selection
import SdBridge.Proofs.Card.Staging
import SdBridge.Proofs.Card.Stopping
import SdBridge.Proofs.Card.Stream
import SdBridge.Proofs.Card.Sturdy
import SdBridge.Proofs.Card.Tally
import SdBridge.Proofs.Card.Ticket
import SdBridge.Proofs.Crc.Appended
import SdBridge.Proofs.Crc.Bursts
import SdBridge.Proofs.Crc.Division
import SdBridge.Proofs.Crc.Serial
import SdBridge.Proofs.Crc.Seven
import SdBridge.Proofs.Device.Sizes
import SdBridge.Proofs.Event.Consumer
import SdBridge.Proofs.Event.Copying
import SdBridge.Proofs.Event.Drain
import SdBridge.Proofs.Event.Draining
import SdBridge.Proofs.Event.Producer
import SdBridge.Proofs.Event.Publication
import SdBridge.Proofs.Event.Queue
import SdBridge.Proofs.Event.Race
import SdBridge.Proofs.Event.Slot
import SdBridge.Proofs.Event.Telemetry
import SdBridge.Proofs.Event.Text
import SdBridge.Proofs.Image.Contents
import SdBridge.Proofs.Image.Fallible
import SdBridge.Proofs.Image.Reliable
import SdBridge.Proofs.Image.Rewriting
import SdBridge.Proofs.Options.Line
import SdBridge.Proofs.Options.Merging
import SdBridge.Proofs.Options.Values
import SdBridge.Proofs.Options.Variables
import SdBridge.Proofs.Program.Account
import SdBridge.Proofs.Program.Behaviour
import SdBridge.Proofs.Program.Interleaving
import SdBridge.Proofs.Program.Sequence
import SdBridge.Proofs.Register.Bits
import SdBridge.Proofs.Register.File
import SdBridge.Proofs.Register.Word
import SdBridge.Proofs.Scratch.Places
import SdBridge.Protocol
import SdBridge.Register.File
import SdBridge.Register.Hardware
import SdBridge.Register.Layout
import SdBridge.Register.Lines
import SdBridge.Register.Window
import SdBridge.Register.Word
import SdBridge.Rehearsal.Engine
import SdBridge.Rehearsal.Stand
import SdBridge.Scratch.Arena
import SdBridge.Scratch.Placement
import SdBridge.Settings
import SdBridge.Startup
import SdBridge.Text.Alphabetic
import SdBridge.Text.Alphanumeric
import SdBridge.Text.Blank
import SdBridge.Text.Cut
import SdBridge.Text.Decimal
import SdBridge.Text.Hex
import SdBridge.Text.Hidden
import SdBridge.Text.Numeric
import SdBridge.Text.Quoted
import SdBridge.Timing
