import FrameFlow.Session.Channel
import FrameFlow.Session.Error

/-!
Polling a payload stream behind a presence stream. A presence is taken first; only a true
one lets a payload be taken, and it is remembered until that payload arrives. So nothing is
lost by polling too early.
-/

namespace FrameFlow

inductive Gated where
  | present (packet : Packet)
  | absent (timestamp : Timestamp)
deriving DecidableEq

/-- Both inboxes of a gated poller, with the true presence whose payload is still due. -/
structure Gate where
  presenceStream : String
  payloadStream : String
  presence : Inbox
  payload : Inbox
  pending : Option Timestamp := none
deriving DecidableEq

namespace Gate

/-- Takes the payload of a true presence. A payload of another frame is an error, and then
neither is due any longer. -/
def takePayload (gate : Gate) (due : Timestamp) :
    Except SessionError (PollResult Gated) × Gate :=
  match gate.payload.take with
  | (.ready packet, payload) =>
      let settled := { gate with payload, pending := none }
      if packet.timestamp = due then (.ok (.ready (.present packet)), settled)
      else (.error (.pairingBroken gate.payloadStream due packet.timestamp), settled)
  | (.empty, _) => (.ok .empty, { gate with pending := some due })
  | (.closed, _) => (.ok .closed, { gate with pending := none })

/-- The first half of a poll. It answers already, unless the payload of a true presence is
due then. -/
def readPresence (gate : Gate) : Option (Except SessionError (PollResult Gated)) × Gate :=
  match gate.pending with
  | some _ => (none, gate)
  | none =>
      match gate.presence.take with
      | (.empty, _) => (some (.ok .empty), gate)
      | (.closed, _) => (some (.ok .closed), gate)
      | (.ready packet, presence) =>
          let taken := { gate with presence }
          match packet.payload with
          | .presence true => (none, { taken with pending := some packet.timestamp })
          | .presence false => (some (.ok (.ready (.absent packet.timestamp))), taken)
          | other =>
              (some (.error (.unexpectedPayload gate.presenceStream .presence other.kind)), taken)

/-- The second half of a poll, if a payload is due. -/
def readPayload (gate : Gate) : Except SessionError (PollResult Gated) × Gate :=
  match gate.pending with
  | some due => gate.takePayload due
  | none => (.ok .empty, gate)

/-- The next move of a poll that waits: it takes a presence, or the payload that is due. It
answers then, unless a payload has become due. -/
def read (gate : Gate) : Option (Except SessionError (PollResult Gated)) × Gate :=
  match gate.pending with
  | none => gate.readPresence
  | some _ => (some gate.readPayload.1, gate.readPayload.2)

/-- A poll that finds what it wants at once, or does not wait: both halves, one after the
other. -/
def poll (gate : Gate) : Except SessionError (PollResult Gated) × Gate :=
  match gate.readPresence with
  | (some answer, after) => (answer, after)
  | (none, after) => after.readPayload

end Gate

end FrameFlow
