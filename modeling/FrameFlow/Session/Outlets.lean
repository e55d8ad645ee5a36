import FrameFlow.Session.Metrics
import FrameFlow.Session.Channel
import FrameFlow.Session.LatestFrame
import FrameFlow.Session.Gate

/-!
Everything that a session's packets can reach: queues, preview places, listeners, counters.
Outlets belong to the callers as much as to the session, and outlive it.
-/

namespace FrameFlow

/-- Who is told about something; the caller chooses the number. -/
abbrev Listener := Nat

abbrev ChannelId := Nat

abbrev PlaceId := Nat

inductive Event where
  | output (listener : Listener) (slot : Slot) (timestamp : Timestamp) (output : Output)
  | packet (listener : Listener) (stream : String) (packet : Packet)
  | preview (listener : Listener) (frame : StampedFrame)
  | failure (listener : Listener) (error : SessionError)
deriving DecidableEq

inductive Binding where
  | output (task : Task) (slot : Slot) (listener : Listener)
  | packets (listener : Listener)
  | preview (listener : Listener)
  | latest (place : PlaceId)
  | poller (channel : ChannelId)
deriving DecidableEq

namespace Binding

def mode : Binding → BindingMode
  | .poller _ => .poller
  | _ => .callback

def channel? : Binding → Option ChannelId
  | .poller channel => some channel
  | _ => none

end Binding

structure Outlets where
  channels : List Channel := []
  places : List LatestFrame := []
  errorListener : Option Listener := none
  events : List Event := []
  metrics : Metrics := {}

namespace Outlets

instance : Inhabited Outlets := ⟨{}⟩

def addChannel (outlets : Outlets) (capacity : Option Nat) : ChannelId × Outlets :=
  (outlets.channels.length,
    { outlets with channels := outlets.channels ++ [.ofCapacity capacity] })

def queued (outlets : Outlets) : Nat :=
  (outlets.channels.map fun channel => channel.packets.length).foldl (· + ·) 0

def addPlace (outlets : Outlets) : PlaceId × Outlets :=
  (outlets.places.length, { outlets with places := outlets.places ++ [{}] })

def tell (outlets : Outlets) (event : Event) : Outlets :=
  { outlets with events := outlets.events ++ [event] }

def takeEvents (outlets : Outlets) : List Event × Outlets :=
  (outlets.events, { outlets with events := [] })

def inbox (outlets : Outlets) (isOpen : ChannelId → Bool) (channel : ChannelId) : Inbox :=
  match outlets.channels[channel]? with
  | some queue => queue.inbox (isOpen channel)
  | none => ⟨[], false⟩

def setPackets (outlets : Outlets) (channel : ChannelId) (packets : List Packet) : Outlets :=
  { outlets with
    channels := outlets.channels.modify channel fun queue => { queue with packets } }

def detach (outlets : Outlets) (channel : ChannelId) : Outlets :=
  { outlets with channels := outlets.channels.modify channel Channel.detach }

def place (outlets : Outlets) (place : PlaceId) : LatestFrame :=
  outlets.places[place]?.getD {}

def setPlace (outlets : Outlets) (place : PlaceId) (latest : LatestFrame) : Outlets :=
  { outlets with places := outlets.places.set place latest }

def countFed (outlets : Outlets) : Outlets :=
  { outlets with metrics := { outlets.metrics with framesFed := outlets.metrics.framesFed + 1 } }

def countRejected (outlets : Outlets) (error : SessionError) : Outlets :=
  { outlets with
    metrics := { outlets.metrics with
      framesRejected := outlets.metrics.framesRejected.bump error.label } }

def countDispatched (outlets : Outlets) (stream : String) (mode : BindingMode) : Outlets :=
  { outlets with
    metrics := { outlets.metrics with
      packetsDispatched := outlets.metrics.packetsDispatched.bump (stream, mode) } }

/-- Puts a packet into a queue and notes how full it is; none if it has to wait. -/
def send (outlets : Outlets) (stream : String) (channel : ChannelId) (packet : Packet) :
    Option Outlets :=
  match outlets.channels[channel]? with
  | none => some outlets
  | some queue =>
      (queue.send packet).map fun sent =>
        { outlets with
          channels := outlets.channels.set channel sent
          metrics := { outlets.metrics with
            pollerDepth := outlets.metrics.pollerDepth.insert stream sent.packets.length } }

def report (outlets : Outlets) (fault : Fault) : Outlets :=
  let counted := { outlets with
    metrics := { outlets.metrics with runtimeErrors := outlets.metrics.runtimeErrors + 1 } }
  match outlets.errorListener with
  | some listener => counted.tell (.failure listener (.engineRuntime fault))
  | none => counted

def notAnImage (stream : String) (payload : Payload) : Status :=
  ⟨.invalidArgument,
    s!"preview stream {Text.quoted stream} carried {payload.kind.text} instead of an image"⟩

/-- What a binding does with a packet that counts as dispatched; none if it has to wait. A
packet of another kind than the binding wants is answered with a status. -/
def handle (outlets : Outlets) (stream : String) (binding : Binding) (packet : Packet) :
    Option (Except Status Unit × Outlets) :=
  match binding with
  | .output task slot listener =>
      match task.decode stream packet.payload with
      | .ok output => some (.ok (), outlets.tell (.output listener slot packet.timestamp output))
      | .error error => some (.error ⟨.invalidArgument, error.message⟩, outlets)
  | .packets listener => some (.ok (), outlets.tell (.packet listener stream packet))
  | .preview listener =>
      match packet.payload with
      | .image frame => some (.ok (), outlets.tell (.preview listener ⟨packet.timestamp, frame⟩))
      | other => some (.error (notAnImage stream other), outlets)
  | .latest place =>
      match packet.payload with
      | .image frame =>
          let stored := (outlets.place place).store ⟨packet.timestamp, frame⟩
          some (.ok (), outlets.setPlace place stored)
      | other => some (.error (notAnImage stream other), outlets)
  | .poller channel => (outlets.send stream channel packet).map fun sent => (.ok (), sent)

def deliver (stream : String) (binding : Binding) (packet : Packet) (outlets : Outlets) :
    Option (Except Status Unit × Outlets) :=
  (outlets.countDispatched stream binding.mode).handle stream binding packet

end Outlets

end FrameFlow
