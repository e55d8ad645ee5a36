import FrameFlow.Binary.Format
import FrameFlow.Binary.Single
import FrameFlow.Decimal.Layout
import FrameFlow.Decimal.Numeral
import FrameFlow.Decimal.Reader
import FrameFlow.Decimal.Shortest
import FrameFlow.Engine.Scripted
import FrameFlow.Engine.Worker
import FrameFlow.File
import FrameFlow.File.Tree
import FrameFlow.Frame
import FrameFlow.Frame.Source
import FrameFlow.Graph.Basic
import FrameFlow.Graph.Decoding
import FrameFlow.Graph.Encoding
import FrameFlow.Graph.Validity
import FrameFlow.Json.Access
import FrameFlow.Json.Basic
import FrameFlow.Json.Decoding
import FrameFlow.Json.Printer
import FrameFlow.Json.Reader
import FrameFlow.Json.Token
import FrameFlow.Main
import FrameFlow.Message.Basic
import FrameFlow.Message.Decoding
import FrameFlow.Message.Encoding
import FrameFlow.Payload
import FrameFlow.Proofs.Binary.TotalOrder
import FrameFlow.Proofs.Engine.Arrivals
import FrameFlow.Proofs.Engine.Atomicity
import FrameFlow.Proofs.Engine.Calls
import FrameFlow.Proofs.Engine.Delivery
import FrameFlow.Proofs.Engine.Emitting
import FrameFlow.Proofs.Engine.Pace
import FrameFlow.Proofs.Engine.Progress
import FrameFlow.Proofs.Engine.Streams
import FrameFlow.Proofs.Engine.Threads
import FrameFlow.Proofs.Engine.Worlds
import FrameFlow.Proofs.Frame.Pixels
import FrameFlow.Proofs.Frame.Slices
import FrameFlow.Proofs.Graph.Acceptance
import FrameFlow.Proofs.Graph.Packets
import FrameFlow.Proofs.Graph.Spelling
import FrameFlow.Proofs.Graph.Violations
import FrameFlow.Proofs.Json.Spelling
import FrameFlow.Proofs.Message.Spelling
import FrameFlow.Proofs.Record.Parallel
import FrameFlow.Proofs.Record.Reach
import FrameFlow.Proofs.Replay.Attending
import FrameFlow.Proofs.Replay.Consuming
import FrameFlow.Proofs.Replay.Flowing
import FrameFlow.Proofs.Replay.Frames
import FrameFlow.Proofs.Replay.Opening
import FrameFlow.Proofs.Replay.Outputs
import FrameFlow.Proofs.Replay.Planning
import FrameFlow.Proofs.Replay.Playing
import FrameFlow.Proofs.Replay.Polling
import FrameFlow.Proofs.Replay.Ports
import FrameFlow.Proofs.Replay.Stamping
import FrameFlow.Proofs.Replay.Stepping
import FrameFlow.Proofs.Replay.Subscribing
import FrameFlow.Proofs.Session.Aborting
import FrameFlow.Proofs.Session.Accounting
import FrameFlow.Proofs.Session.Agreement
import FrameFlow.Proofs.Session.Audience
import FrameFlow.Proofs.Session.Awaiting
import FrameFlow.Proofs.Session.Bindings
import FrameFlow.Proofs.Session.Books
import FrameFlow.Proofs.Session.CallOrder
import FrameFlow.Proofs.Session.Calling
import FrameFlow.Proofs.Session.Closing
import FrameFlow.Proofs.Session.Completion
import FrameFlow.Proofs.Session.Conversation
import FrameFlow.Proofs.Session.Correspondence
import FrameFlow.Proofs.Session.Draining
import FrameFlow.Proofs.Session.Filling
import FrameFlow.Proofs.Session.Front
import FrameFlow.Proofs.Session.Gating
import FrameFlow.Proofs.Session.Granting
import FrameFlow.Proofs.Session.Hearing
import FrameFlow.Proofs.Session.Kinds
import FrameFlow.Proofs.Session.Launching
import FrameFlow.Proofs.Session.Observing
import FrameFlow.Proofs.Session.Outstanding
import FrameFlow.Proofs.Session.Overhearing
import FrameFlow.Proofs.Session.Pairing
import FrameFlow.Proofs.Session.Pairs
import FrameFlow.Proofs.Session.Pipeline
import FrameFlow.Proofs.Session.Previewing
import FrameFlow.Proofs.Session.Providing
import FrameFlow.Proofs.Session.Reading
import FrameFlow.Proofs.Session.Rebinding
import FrameFlow.Proofs.Session.Refusals
import FrameFlow.Proofs.Session.Release
import FrameFlow.Proofs.Session.Renewal
import FrameFlow.Proofs.Session.Resting
import FrameFlow.Proofs.Session.Seating
import FrameFlow.Proofs.Session.Separation
import FrameFlow.Proofs.Session.Service
import FrameFlow.Proofs.Session.Serving
import FrameFlow.Proofs.Session.Settling
import FrameFlow.Proofs.Session.Sparing
import FrameFlow.Proofs.Session.Stamping
import FrameFlow.Proofs.Session.Steps
import FrameFlow.Proofs.Session.Supply
import FrameFlow.Proofs.Session.Takings
import FrameFlow.Proofs.Session.Traffic
import FrameFlow.Proofs.Session.Turns
import FrameFlow.Proofs.Session.Typing
import FrameFlow.Proofs.Session.Usage
import FrameFlow.Proofs.Session.Viewing
import FrameFlow.Proofs.StreamMap
import FrameFlow.Proofs.Text.ByteOrder
import FrameFlow.Record.Basic
import FrameFlow.Record.Category
import FrameFlow.Record.Marshal
import FrameFlow.Region
import FrameFlow.Replay.Basic
import FrameFlow.Replay.Command
import FrameFlow.Replay.Encoding
import FrameFlow.Replay.Failure
import FrameFlow.Replay.Flags
import FrameFlow.Replay.Line
import FrameFlow.Replay.Plan
import FrameFlow.Replay.Preset
import FrameFlow.Replay.Run
import FrameFlow.Session.Basic
import FrameFlow.Session.BindingTable
import FrameFlow.Session.Channel
import FrameFlow.Session.Engine
import FrameFlow.Session.Error
import FrameFlow.Session.Gate
import FrameFlow.Session.Handles
import FrameFlow.Session.LatestFrame
import FrameFlow.Session.Lifecycle
import FrameFlow.Session.Metrics
import FrameFlow.Session.Outlets
import FrameFlow.Session.Poller
import FrameFlow.Session.Unreliable
import FrameFlow.Status
import FrameFlow.StreamMap
import FrameFlow.Task
import FrameFlow.Task.Decoding
import FrameFlow.Task.Encoding
import FrameFlow.Text.Blank
import FrameFlow.Text.Boundaries
import FrameFlow.Text.GraphemeExtend
import FrameFlow.Text.Hex
import FrameFlow.Text.Padding
import FrameFlow.Text.Quoted
import FrameFlow.Text.Unprintable
import FrameFlow.Timestamp
