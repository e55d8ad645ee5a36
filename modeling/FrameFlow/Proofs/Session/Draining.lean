import FrameFlow.Proofs.Session.Gating
import FrameFlow.Session.Poller

/-!
What pollers get out of queues that nobody fills any more: first what waits there, and then
for ever that nothing follows. A gated poller gets one answer for every presence that waits.
-/

namespace FrameFlow

/-- The first answers out of some that are given, and out of one that is given from then on. -/
def andThen (last : α) : List α → Nat → List α
  | _, 0 => []
  | [], number + 1 => last :: andThen last [] number
  | answer :: rest, number + 1 => answer :: andThen last rest number

theorem andThen_eq (last : α) (answers : List α) (number : Nat) :
    andThen last answers number =
      answers.take number ++ List.replicate (number - answers.length) last := by
  induction number generalizing answers with
  | zero => cases answers <;> simp [andThen]
  | succ number ih =>
      cases answers with
      | nil => simp [andThen, ih, List.replicate_succ]
      | cons answer rest => simp [andThen, ih]

def nobody : ChannelId → Bool := fun _ => false

namespace Outlets

def queue (outlets : Outlets) (channel : ChannelId) : List Packet :=
  (outlets.inbox nobody channel).packets

theorem inbox_nobody (outlets : Outlets) (channel : ChannelId) :
    outlets.inbox nobody channel = ⟨outlets.queue channel, false⟩ := by
  simp only [queue, inbox]
  cases outlets.channels[channel]? <;> rfl

theorem packets_inbox (outlets : Outlets) (isOpen : ChannelId → Bool) (channel : ChannelId) :
    (outlets.inbox isOpen channel).packets = outlets.queue channel := by
  unfold queue inbox
  split <;> rfl

theorem queue_setPackets {outlets : Outlets} {channel : ChannelId} {packets : List Packet}
    (left : packets <:+ outlets.queue channel) :
    (outlets.setPackets channel packets).queue channel = packets := by
  cases found : outlets.channels[channel]? with
  | none =>
      have empty : outlets.queue channel = [] := by simp only [queue, inbox, found]
      rw [empty, List.suffix_nil] at left
      simp [queue, inbox, setPackets, found, left]
  | some queue =>
      simp [Outlets.queue, inbox, setPackets, found, Channel.inbox]

theorem setPackets_queue (outlets : Outlets) (channel : ChannelId) :
    outlets.setPackets channel (outlets.queue channel) = outlets := by
  cases found : outlets.channels[channel]? with
  | none => rw [setPackets, List.modify_eq_self (List.getElem?_eq_none_iff.mp found)]
  | some queue =>
      have same : outlets.queue channel = queue.packets := by
        simp only [Outlets.queue, inbox, found]
        rfl
      have kept : outlets.channels.modify channel (fun changed => { changed with
          packets := queue.packets }) = outlets.channels := by
        apply List.ext_getElem?
        intro other
        rw [List.getElem?_modify]
        split
        · rename_i equal
          subst equal
          rw [found]
          rfl
        · exact Option.map_id'
      rw [same, setPackets, kept]

theorem queue_setPackets_of_ne {outlets : Outlets} {channel other : ChannelId}
    (apart : channel ≠ other) (packets : List Packet) :
    (outlets.setPackets channel packets).queue other = outlets.queue other := by
  simp [queue, inbox, setPackets, apart]

end Outlets

theorem Poller.poll_nobody (poller : Poller) (outlets : Outlets) :
    let polled := poller.poll nobody outlets
    match outlets.queue poller.channel with
    | [] => polled.1 = .closed ∧ polled.2.queue poller.channel = []
    | packet :: rest => polled.1 = .ready packet ∧ polled.2.queue poller.channel = rest := by
  simp only [poll, Outlets.inbox_nobody]
  cases waiting : outlets.queue poller.channel with
  | nil => exact ⟨rfl, Outlets.queue_setPackets (by rw [waiting]; exact List.nil_suffix)⟩
  | cons packet rest =>
      exact ⟨rfl, Outlets.queue_setPackets (by rw [waiting]; exact List.suffix_cons ..)⟩

namespace Gate

def paired (payloadStream : String) (due : Timestamp) :
    List Packet → Except SessionError (PollResult Gated)
  | [] => .ok .closed
  | packet :: _ =>
      if packet.timestamp = due then .ok (.ready (.present packet))
      else .error (.pairingBroken payloadStream due packet.timestamp)

/-- One answer for every presence, in order. True ones take a payload each. -/
def judged (presenceStream payloadStream : String) :
    List Packet → List Packet → List (Except SessionError (PollResult Gated))
  | [], _ => []
  | presence :: rest, payloads =>
      match presence.payload with
      | .presence true =>
          paired payloadStream presence.timestamp payloads ::
            judged presenceStream payloadStream rest payloads.tail
      | .presence false =>
          .ok (.ready (.absent presence.timestamp)) ::
            judged presenceStream payloadStream rest payloads
      | other =>
          .error (.unexpectedPayload presenceStream .presence other.kind) ::
            judged presenceStream payloadStream rest payloads

/-- What polls get out of a gate whose queues nobody fills any more, before it is closed for
good. -/
def leftovers (gate : Gate) : List (Except SessionError (PollResult Gated)) :=
  let judged := judged gate.presenceStream gate.payloadStream gate.presence.packets
  match gate.pending with
  | some due =>
      paired gate.payloadStream due gate.payload.packets :: judged gate.payload.packets.tail
  | none => judged gate.payload.packets

/-- The queues of a gate are nobody's any more, and those after it are what is left of them. -/
structure Abandons (gate after : Gate) : Prop where
  presenceOpen : after.presence.isOpen = false
  payloadOpen : after.payload.isOpen = false
  presenceStream : after.presenceStream = gate.presenceStream
  payloadStream : after.payloadStream = gate.payloadStream
  presence : after.presence.packets <:+ gate.presence.packets
  payload : after.payload.packets <:+ gate.payload.packets

variable {gate : Gate}

theorem takePayload_abandoned (closed : gate.payload.isOpen = false) (due : Timestamp) :
    gate.takePayload due =
      (paired gate.payloadStream due gate.payload.packets,
        { gate with
          payload := ⟨gate.payload.packets.tail, false⟩
          pending := none }) := by
  obtain ⟨presenceStream, payloadStream, presence, ⟨payloads, isOpen⟩, pending⟩ := gate
  obtain rfl : isOpen = false := closed
  cases payloads with
  | nil => rfl
  | cons packet rest =>
      simp only [takePayload, Inbox.take, paired, List.tail_cons]
      split <;> rfl

theorem poll_abandoned (presenceClosed : gate.presence.isOpen = false)
    (payloadClosed : gate.payload.isOpen = false) :
    gate.Abandons gate.poll.2 ∧
      match gate.leftovers with
      | [] => gate.poll.1 = .ok .closed ∧ gate.poll.2.leftovers = []
      | answer :: rest => gate.poll.1 = answer ∧ gate.poll.2.leftovers = rest := by
  obtain ⟨presenceStream, payloadStream, ⟨presences, isOpen⟩, payload, pending⟩ := gate
  obtain rfl : isOpen = false := presenceClosed
  have fewer := List.tail_suffix payload.packets
  cases pending with
  | some due =>
      simp only [poll_eq, takePayload_abandoned payloadClosed, leftovers]
      exact ⟨⟨rfl, rfl, rfl, rfl, List.suffix_refl _, fewer⟩, trivial, trivial⟩
  | none =>
      cases presences with
      | nil =>
          exact ⟨⟨rfl, payloadClosed, rfl, rfl, List.suffix_refl _, List.suffix_refl _⟩, rfl, rfl⟩
      | cons presence rest =>
          have later := List.suffix_cons presence rest
          obtain ⟨timestamp, content⟩ := presence
          cases content with
          | presence isPresent =>
              cases isPresent with
              | true =>
                  let taken : Gate :=
                    { presenceStream, payloadStream, presence := ⟨rest, false⟩, payload }
                  have paid := @takePayload_abandoned taken payloadClosed timestamp
                  simp only [poll_eq, Inbox.take, leftovers, judged]
                  rw [paid]
                  exact ⟨⟨rfl, rfl, rfl, rfl, later, fewer⟩, rfl, rfl⟩
              | false =>
                  exact ⟨⟨rfl, payloadClosed, rfl, rfl, later, List.suffix_refl _⟩, rfl, rfl⟩
          | _ => exact ⟨⟨rfl, payloadClosed, rfl, rfl, later, List.suffix_refl _⟩, rfl, rfl⟩

end Gate

namespace OutputPoller

def HasOwnQueues (poller : OutputPoller) : Prop :=
  match poller.source with
  | .plain _ => True
  | .gated source => source.presence.channel ≠ source.payload.channel

def answerOf (poller : OutputPoller) :
    Except SessionError (PollResult Gated) → Except SessionError (PollResult Observation)
  | .error error => .error error
  | .ok .empty => .ok .empty
  | .ok .closed => .ok .closed
  | .ok (.ready gated) => (poller.observe gated).map .ready

section Answers

variable {poller : OutputPoller} {answer : Except SessionError (PollResult Gated)}

theorem answerOf_eq_closed (closed : poller.answerOf answer = .ok .closed) :
    answer = .ok .closed := by
  rcases answer with error | (gated | _ | _)
  · cases closed
  · rw [answerOf] at closed
    cases seen : poller.observe gated <;> rw [seen] at closed <;> cases closed
  · cases closed
  · rfl

theorem answerOf_eq_empty (empty : poller.answerOf answer = .ok .empty) :
    answer = .ok .empty := by
  rcases answer with error | (gated | _ | _)
  · cases empty
  · rw [answerOf] at empty
    cases seen : poller.observe gated <;> rw [seen] at empty <;> cases empty
  · rfl
  · cases empty

end Answers

def leftovers (poller : OutputPoller) (outlets : Outlets) :
    List (Except SessionError (PollResult Gated)) :=
  match poller.source with
  | .plain source =>
      (outlets.queue source.channel).map fun packet => .ok (.ready (.present packet))
  | .gated source => (source.gate nobody outlets).leftovers

end OutputPoller

/-- A gated poller and its queues, put together again after a poll, are the gate after it. -/
theorem GatedPoller.poll_nobody (poller : GatedPoller) (outlets : Outlets)
    (apart : poller.presence.channel ≠ poller.payload.channel) :
    let polled := poller.poll nobody outlets
    polled.1 = (poller.gate nobody outlets).poll.1 ∧
      polled.2.1.gate nobody polled.2.2 = (poller.gate nobody outlets).poll.2 := by
  have closed : ∀ channel, (outlets.inbox nobody channel).isOpen = false := by
    intro channel
    rw [Outlets.inbox_nobody]
  have abandons := (@Gate.poll_abandoned (poller.gate nobody outlets) (closed _) (closed _)).1
  refine ⟨rfl, ?_⟩
  cases polled : (poller.gate nobody outlets).poll with
  | mk result after =>
      rw [polled] at abandons
      obtain ⟨presenceStream, payloadStream, ⟨presences, _⟩, ⟨payloads, _⟩, pending⟩ := after
      obtain ⟨rfl, rfl, rfl, rfl, presence, payload⟩ := abandons
      -- Both queues are written one after the other, and neither write reaches the other queue.
      let read := outlets.setPackets poller.presence.channel presences
      have presenceLeft : read.queue poller.presence.channel = presences :=
        Outlets.queue_setPackets presence
      have unread : read.queue poller.payload.channel = outlets.queue poller.payload.channel :=
        Outlets.queue_setPackets_of_ne apart presences
      have payloadLeft :
          (read.setPackets poller.payload.channel payloads).queue poller.payload.channel =
            payloads :=
        Outlets.queue_setPackets (by rw [unread]; exact payload)
      have unpaid :
          (read.setPackets poller.payload.channel payloads).queue poller.presence.channel =
            read.queue poller.presence.channel :=
        Outlets.queue_setPackets_of_ne apart.symm payloads
      simp only [poll, put, polled]
      change Gate.mk _ _ (Outlets.inbox _ nobody _) (Outlets.inbox _ nobody _) _ = _
      rw [Outlets.inbox_nobody, Outlets.inbox_nobody, payloadLeft, unpaid, presenceLeft]
      rfl

namespace OutputPoller

variable {poller : OutputPoller}

theorem poll_nobody (own : poller.HasOwnQueues) (outlets : Outlets) :
    let polled := poller.poll nobody outlets
    polled.2.1.HasOwnQueues ∧ polled.2.1.answerOf = poller.answerOf ∧
      match poller.leftovers outlets with
      | [] => polled.1 = .ok .closed ∧ polled.2.1.leftovers polled.2.2 = []
      | answer :: rest =>
          polled.1 = poller.answerOf answer ∧ polled.2.1.leftovers polled.2.2 = rest := by
  obtain ⟨task, source⟩ := poller
  cases source with
  | plain source =>
      refine ⟨trivial, rfl, ?_⟩
      have polled := source.poll_nobody outlets
      simp only [leftovers]
      cases waiting : outlets.queue source.channel with
      | nil =>
          simp only [waiting] at polled
          simp only [poll, pollSource, polled.1, polled.2, PollResult.map, List.map_nil]
          exact ⟨trivial, trivial⟩
      | cons packet rest =>
          simp only [waiting] at polled
          simp only [poll, pollSource, polled.1, polled.2, PollResult.map, List.map_cons]
          exact ⟨rfl, trivial⟩
  | gated source =>
      refine ⟨own, rfl, ?_⟩
      have closed : ∀ channel, (outlets.inbox nobody channel).isOpen = false := by
        intro channel
        rw [Outlets.inbox_nobody]
      have polled := (@Gate.poll_abandoned (source.gate nobody outlets) (closed _) (closed _)).2
      obtain ⟨found, left⟩ := source.poll_nobody outlets own
      rw [← found, ← left] at polled
      simp only [leftovers]
      cases waiting : (source.gate nobody outlets).leftovers with
      | nil =>
          simp only [waiting] at polled
          obtain ⟨closed, empty⟩ := polled
          simp only [poll, pollSource, closed]
          exact ⟨trivial, empty⟩
      | cons answer rest =>
          simp only [waiting] at polled
          obtain ⟨answered, others⟩ := polled
          refine ⟨?_, others⟩
          simp only [poll, pollSource, answered]
          rcases answer with error | (gated | _ | _) <;> rfl

end OutputPoller

end FrameFlow
