import FrameFlow.Payload

/-!
Queues of packets between an engine and a poller. The poller sees a queue as an inbox: the
packets not taken yet, and whether more may come.
-/

namespace FrameFlow

inductive PollResult (α : Type u) where
  | ready (value : α)
  | empty
  | closed
deriving DecidableEq

namespace PollResult

def map (f : α → β) : PollResult α → PollResult β
  | .ready value => .ready (f value)
  | .empty => .empty
  | .closed => .closed

end PollResult

structure Inbox where
  packets : List Packet
  isOpen : Bool
deriving DecidableEq

def Inbox.take (inbox : Inbox) : PollResult Packet × Inbox :=
  match inbox.packets with
  | packet :: rest => (.ready packet, { inbox with packets := rest })
  | [] => (if inbox.isOpen then .empty else .closed, inbox)

structure Channel where
  capacity : Option Nat
  packets : List Packet := []
  attached : Bool := true
deriving DecidableEq

namespace Channel

/-- An empty queue. Every queue holds at least one packet. -/
def ofCapacity (capacity : Option Nat) : Channel where
  capacity := capacity.map (max 1)

def isFull (channel : Channel) : Bool :=
  match channel.capacity with
  | some capacity => decide (capacity ≤ channel.packets.length)
  | none => false

/-- The queue with one more packet; none if it is full and the sender has to wait. Without
a receiving end packets are discarded. -/
def send (channel : Channel) (packet : Packet) : Option Channel :=
  if channel.attached then
    if channel.isFull then none
    else some { channel with packets := channel.packets ++ [packet] }
  else some channel

def detach (channel : Channel) : Channel :=
  { channel with packets := [], attached := false }

def inbox (channel : Channel) (isOpen : Bool) : Inbox := ⟨channel.packets, isOpen⟩

end Channel

end FrameFlow
