import FrameFlow.Session.Outlets

/-!
The caller's handles on queues. A poll says whether the sending end of a queue still exists
through `isOpen`, because only whoever holds the sending ends knows it.
-/

namespace FrameFlow

structure Poller where
  stream : String
  channel : ChannelId
deriving DecidableEq

namespace Poller

def queued (poller : Poller) (outlets : Outlets) : Nat :=
  (outlets.inbox (fun _ => false) poller.channel).packets.length

def poll (isOpen : ChannelId → Bool) (poller : Poller) (outlets : Outlets) :
    PollResult Packet × Outlets :=
  let (result, inbox) := (outlets.inbox isOpen poller.channel).take
  (result, outlets.setPackets poller.channel inbox.packets)

def detach (poller : Poller) (outlets : Outlets) : Outlets := outlets.detach poller.channel

def description (poller : Poller) (outlets : Outlets) : String :=
  s!"Poller \x7b stream: {Text.quoted poller.stream}, queued: {poller.queued outlets} \x7d"

end Poller

structure GatedPoller where
  payload : Poller
  presence : Poller
  /-- A true presence whose payload has not arrived yet. -/
  pending : Option Timestamp := none
deriving DecidableEq

namespace GatedPoller

def gate (isOpen : ChannelId → Bool) (poller : GatedPoller) (outlets : Outlets) : Gate where
  presenceStream := poller.presence.stream
  payloadStream := poller.payload.stream
  presence := outlets.inbox isOpen poller.presence.channel
  payload := outlets.inbox isOpen poller.payload.channel
  pending := poller.pending

/-- The poller and its queues after a gate was read. -/
def put (poller : GatedPoller) (gate : Gate) (outlets : Outlets) : GatedPoller × Outlets :=
  ({ poller with pending := gate.pending },
    (outlets.setPackets poller.presence.channel gate.presence.packets).setPackets
      poller.payload.channel gate.payload.packets)

def poll (isOpen : ChannelId → Bool) (poller : GatedPoller) (outlets : Outlets) :
    Except SessionError (PollResult Gated) × GatedPoller × Outlets :=
  let (result, gate) := (poller.gate isOpen outlets).poll
  (result, poller.put gate outlets)

def detach (poller : GatedPoller) (outlets : Outlets) : Outlets :=
  poller.presence.detach (poller.payload.detach outlets)

end GatedPoller

/-- One polled output. There is no value if the presence stream said so. -/
structure Observation where
  timestamp : Timestamp
  value : Option Output
deriving DecidableEq

inductive OutputSource where
  | plain (poller : Poller)
  | gated (poller : GatedPoller)
deriving DecidableEq

structure OutputPoller where
  task : Task
  source : OutputSource
deriving DecidableEq

namespace OutputPoller

def stream (poller : OutputPoller) : String :=
  match poller.source with
  | .plain source => source.stream
  | .gated source => source.payload.stream

def isGated (poller : OutputPoller) : Bool :=
  match poller.source with
  | .plain _ => false
  | .gated _ => true

def pollSource (isOpen : ChannelId → Bool) (poller : OutputPoller) (outlets : Outlets) :
    Except SessionError (PollResult Gated) × OutputPoller × Outlets :=
  match poller.source with
  | .plain source =>
      let (result, outlets) := source.poll isOpen outlets
      (.ok (result.map .present), poller, outlets)
  | .gated source =>
      let (result, source, outlets) := source.poll isOpen outlets
      (result, { poller with source := .gated source }, outlets)

def observe (poller : OutputPoller) : Gated → Except SessionError Observation
  | .present packet =>
      (poller.task.decode poller.stream packet.payload).map fun output =>
        ⟨packet.timestamp, some output⟩
  | .absent timestamp => .ok ⟨timestamp, none⟩

/-- One poll. A packet that cannot be marshaled is taken all the same. -/
def poll (isOpen : ChannelId → Bool) (poller : OutputPoller) (outlets : Outlets) :
    Except SessionError (PollResult Observation) × OutputPoller × Outlets :=
  let (result, after, outlets) := poller.pollSource isOpen outlets
  let answer :=
    match result with
    | .error error => .error error
    | .ok .empty => .ok .empty
    | .ok .closed => .ok .closed
    | .ok (.ready gated) => (after.observe gated).map .ready
  (answer, after, outlets)

def elements (observation : Observation) : List Element :=
  match observation.value with
  | some output => output.elements
  | none => []

/-- The result of a poll copied into a buffer, which has to have as many places as the
output has elements. Answers whether anything was copied, and the buffer. -/
def copy (result : Except SessionError (PollResult Observation)) (buffer : List Element) :
    Except SessionError Bool × List Element :=
  match result with
  | .error error => (.error error, buffer)
  | .ok .empty | .ok .closed => (.ok false, buffer)
  | .ok (.ready observation) =>
      match elements observation with
      | [] => (.ok false, buffer)
      | source =>
          match copyInto source buffer with
          | .ok filled => (.ok true, filled)
          | .error mismatch => (.error (.outputSize mismatch), buffer)

def copyNext (isOpen : ChannelId → Bool) (poller : OutputPoller) (buffer : List Element)
    (outlets : Outlets) : Except SessionError Bool × List Element × OutputPoller × Outlets :=
  let (result, after, outlets) := poller.poll isOpen outlets
  let (answer, filled) := copy result buffer
  (answer, filled, after, outlets)

def detach (poller : OutputPoller) (outlets : Outlets) : Outlets :=
  match poller.source with
  | .plain source => source.detach outlets
  | .gated source => source.detach outlets

def description (poller : OutputPoller) : String :=
  s!"OutputPoller \x7b task: {poller.task.title}, stream: {Text.quoted poller.stream}, " ++
    s!"gated: {poller.isGated} \x7d"

end OutputPoller

end FrameFlow
