import FrameFlow.Proofs.Session.Hearing
import FrameFlow.Proofs.Session.Typing
import Mathlib.Algebra.GroupWithZero.Nat
import Mathlib.Data.List.Basic

/-!
What is outstanding in a session: emissions that its engine still owes, and packets in queues. An
engine that goes on does not add to it, and polls lessen it or take nothing. So where nothing gets
less any more, the engine is done or waits for room in a full queue.
-/

namespace FrameFlow

theorem Channel.length_of_send {queue sent : Channel} {packet : Packet}
    (accepted : queue.send packet = some sent) :
    sent.packets.length ≤ queue.packets.length + 1 := by
  unfold send at accepted
  split at accepted
  · split at accepted
    · contradiction
    · cases accepted
      exact Nat.le_of_eq List.length_append
  · cases accepted
    exact Nat.le_succ _

namespace Outlets

variable {outlets after : Outlets}

theorem queued_eq_sum (outlets : Outlets) :
    outlets.queued = (outlets.channels.map fun queue => queue.packets.length).sum :=
  List.sum_eq_foldl.symm

theorem queued_congr (same : after.channels = outlets.channels) :
    after.queued = outlets.queued := by
  rw [queued, same, queued]

theorem sum_modify {channels : List Channel} {position : Nat} {queue : Channel}
    (found : channels[position]? = some queue) (measure : Channel → Nat)
    (change : Channel → Channel) :
    ((channels.modify position change).map measure).sum + measure queue =
      (channels.map measure).sum + measure (change queue) := by
  induction channels generalizing position with
  | nil => contradiction
  | cons first rest ih =>
      cases position with
      | zero =>
          cases found
          simp only [List.modify_zero_cons, List.map_cons, List.sum_cons]
          omega
      | succ position =>
          have later := ih found
          simp only [List.modify_succ_cons, List.map_cons, List.sum_cons]
          omega

/-- What a queue loses, the total loses. -/
theorem queued_setPackets {channel : ChannelId} {packets : List Packet}
    (left : packets <:+ outlets.queue channel) :
    (outlets.setPackets channel packets).queued + (outlets.queue channel).length =
      outlets.queued + packets.length := by
  rw [queued_eq_sum, queued_eq_sum]
  cases found : outlets.channels[channel]? with
  | none =>
      have empty : outlets.queue channel = [] := by simp only [queue, inbox, found]
      rw [empty, List.suffix_nil] at left
      rw [empty, left, setPackets, List.modify_eq_self (List.getElem?_eq_none_iff.mp found)]
  | some queue =>
      have same : outlets.queue channel = queue.packets := by
        simp only [Outlets.queue, inbox, found]
        rfl
      rw [same]
      exact sum_modify found _ _

theorem queued_detach_le (outlets : Outlets) (channel : ChannelId) :
    (outlets.detach channel).queued ≤ outlets.queued := by
  cases found : outlets.channels[channel]? with
  | none =>
      apply Nat.le_of_eq
      rw [detach, List.modify_eq_self (List.getElem?_eq_none_iff.mp found)]
  | some queue =>
      have changed := sum_modify found (fun queue => queue.packets.length) Channel.detach
      simp only [Channel.detach, List.length_nil] at changed
      rw [queued_eq_sum, queued_eq_sum]
      exact Nat.le.intro changed

theorem queued_of_deliver {stream : String} {binding : Binding} {packet : Packet}
    {answer : Except Status Unit}
    (delivered : deliver stream binding packet outlets = some (answer, after)) :
    after.queued ≤ outlets.queued + 1 := by
  have channels := channels_of_deliver delivered
  cases binding with
  | poller channel =>
      rcases channels with ⟨_, same⟩ | ⟨queue, sent, found, accepted, same⟩
      · exact Nat.le_succ_of_le (Nat.le_of_eq (queued_congr same))
      · have longer := Channel.length_of_send accepted
        have changed := sum_modify found (fun queue => queue.packets.length) fun _ => sent
        rw [← List.set_eq_modify, ← same, ← queued_eq_sum, ← queued_eq_sum] at changed
        omega
  | _ => exact Nat.le_succ_of_le (Nat.le_of_eq (queued_congr channels))

theorem queued_of_emit {observers : StreamMap Binding} {sink : Option Unit} {emission : Emission}
    (emitted : SessionEngine.reaction.emit observers sink emission outlets = some after) :
    after.queued ≤ outlets.queued + 1 := by
  have reported (fault : Fault) (outlets : Outlets) :
      (SessionEngine.reaction.reportTo sink fault outlets).queued = outlets.queued := by
    cases sink with
    | none => rfl
    | some sink =>
        simp only [Reaction.reportTo, SessionEngine.reaction, Outlets.report]
        split <;> rfl
  cases emission with
  | fault fault =>
      cases emitted
      exact Nat.le_succ_of_le (Nat.le_of_eq (reported fault outlets))
  | packet stream packet =>
      cases found : observers.find? stream with
      | none =>
          simp only [Reaction.emit, found, Option.some.injEq] at emitted
          exact emitted ▸ Nat.le_succ _
      | some binding =>
          simp only [Reaction.emit, found, Option.map_eq_some_iff] at emitted
          obtain ⟨⟨answer, middle⟩, delivered, rfl⟩ := emitted
          have more := queued_of_deliver delivered
          cases answer with
          | ok done => exact more
          | error status => exact Nat.le_trans (Nat.le_of_eq (reported _ middle)) more

theorem queued_of_emits {observers : StreamMap Binding} {sink : Option Unit}
    {emissions : List Emission}
    (emits : SessionEngine.reaction.Emits observers sink emissions outlets after) :
    after.queued ≤ outlets.queued + emissions.length := by
  induction emits with
  | nothing => exact Nat.le_refl _
  | next emitted _ ih =>
      have more := queued_of_emit emitted
      rw [List.length_cons]
      omega

end Outlets

section Engines

variable {η φ : Type}

theorem Worker.emissionTotal_eq (graph : Graph) (index : Nat) (waiting : List StampedFrame) :
    emissionTotal graph index waiting = (graph.emissionsFrom index waiting).length := by
  induction waiting generalizing index with
  | nil => rfl
  | cons input rest ih =>
      rw [emissionTotal, Graph.emissionsFrom, List.length_append, ih]

theorem ScriptedEngine.remaining_eq (engine : ScriptedEngine η φ) :
    engine.remaining = engine.owed.length := by
  cases found : engine.worker with
  | none => simp only [remaining, owed, found, List.length_nil]
  | some worker =>
      simp only [remaining, owed, found, Worker.remaining, Worker.owed, List.length_append,
        Worker.emissionTotal_eq]

/-- An engine that goes on turns emissions into packets at most. -/
theorem SessionEngine.outstanding_advance (engine : SessionEngine) (outlets : Outlets) :
    let worked := engine.advance SessionEngine.reaction outlets
    worked.1.remaining + worked.2.queued ≤ engine.remaining + outlets.queued := by
  intro worked
  cases found : engine.worker with
  | none =>
      have still : worked = (engine, outlets) := by
        simp only [worked, ScriptedEngine.advance, found]
      exact Nat.le_of_eq (by rw [still])
  | some worker =>
      obtain ⟨done, owed, emits, _⟩ :=
        ScriptedEngine.exists_emits SessionEngine.reaction found outlets
      have more := Outlets.queued_of_emits emits
      rw [ScriptedEngine.remaining_eq, ScriptedEngine.remaining_eq, owed, List.length_append]
      change (engine.advance SessionEngine.reaction outlets).1.owed.length +
        (engine.advance SessionEngine.reaction outlets).2.queued ≤ _
      omega

theorem Worker.advance_of_isHeld {ω : Type} {reaction : Reaction η φ ω} {worker : Worker η φ}
    {world : ω} (held : worker.IsHeld reaction world) :
    worker.advance reaction world = (worker, world) := by
  obtain ⟨emission, rest, current, waits⟩ := held
  have stays : reaction.emitAll worker.observers worker.sink (emission :: rest) world =
      (emission :: rest, world) := by
    simp only [Reaction.emitAll, waits]
  have worked : worker.workOff reaction worker.current worker.index worker.waiting world =
      ((worker.current, worker.index, worker.waiting), world) := by
    rw [current]
    cases waiting : worker.waiting with
    | nil => simp only [workOff, stays]
    | cons input others => simp only [workOff, stays]
  simp only [advance, worked]

theorem ScriptedEngine.advance_of_isHeld {ω : Type} {reaction : Reaction η φ ω}
    {engine : ScriptedEngine η φ} {worker : Worker η φ} {world : ω}
    (found : engine.worker = some worker) (held : worker.IsHeld reaction world) :
    engine.advance reaction world = (engine, world) := by
  have still := Worker.advance_of_isHeld held
  obtain ⟨emission, rest, current, _⟩ := held
  have busy : worker.isIdle = false := by
    rw [Worker.isIdle, current]
    rfl
  simp only [advance, found, still, busy]
  rw [← found]
  rfl

theorem SessionEngine.HoldsUp.isHeld {worker : Worker Binding Unit} {outlets : Outlets}
    (holdsUp : HoldsUp worker outlets) : worker.IsHeld SessionEngine.reaction outlets := by
  obtain ⟨stream, packet, rest, channel, queue, current, found, present, attached, full⟩ := holdsUp
  refine ⟨.packet stream packet, rest, current, ?_⟩
  have waits := @Outlets.deliver_eq_none_iff outlets stream packet (.poller channel)
  simp only [Reaction.emit, found, Option.map_eq_none_iff]
  exact waits.mpr ⟨channel, queue, rfl, present, attached, full⟩

end Engines

namespace Gate

variable {gate : Gate} {gated : Gated}

theorem fewer_of_takePayload {due : Timestamp}
    (ready : (gate.takePayload due).1 = .ok (.ready gated)) :
    (gate.takePayload due).2.presence = gate.presence ∧
      (gate.takePayload due).2.payload.packets.length < gate.payload.packets.length := by
  obtain ⟨presenceStream, payloadStream, presence, ⟨payloads, opened⟩, pending⟩ := gate
  cases payloads with
  | nil => cases opened <;> simp [takePayload, Inbox.take] at ready
  | cons packet rest =>
      simp only [takePayload, Inbox.take]
      split <;> exact ⟨rfl, Nat.lt_succ_self _⟩

/-- An answer that is there was made of a packet at least. -/
theorem fewer_of_ready (ready : gate.poll.1 = .ok (.ready gated)) :
    gate.poll.2.presence.packets.length + gate.poll.2.payload.packets.length <
      gate.presence.packets.length + gate.payload.packets.length := by
  obtain ⟨presenceStream, payloadStream, ⟨presences, opened⟩, payload, pending⟩ := gate
  cases pending with
  | some due =>
      obtain ⟨same, fewer⟩ := fewer_of_takePayload ready
      exact same.symm ▸ Nat.add_lt_add_left fewer _
  | none =>
      cases presences with
      | nil => cases opened <;> simp [poll_eq, Inbox.take] at ready
      | cons packet rest =>
          obtain ⟨timestamp, content⟩ := packet
          cases content with
          | presence isPresent =>
              cases isPresent with
              | true =>
                  let taken : Gate :=
                    { presenceStream, payloadStream, presence := ⟨rest, opened⟩, payload }
                  obtain ⟨same, fewer⟩ := @fewer_of_takePayload taken gated timestamp ready
                  change (taken.takePayload timestamp).2.presence.packets.length +
                    (taken.takePayload timestamp).2.payload.packets.length <
                      rest.length + 1 + payload.packets.length
                  rw [same]
                  exact Nat.add_lt_add (Nat.lt_succ_self _) fewer
              | false => exact Nat.add_lt_add_right (Nat.lt_succ_self _) _
          | _ => simp [poll_eq, Inbox.take] at ready

end Gate

/-- A poll takes packets or nothing at all. Whatever is there for it was made of packets. -/
structure Outlets.Consumes (before after : Outlets)
    (answer : Except SessionError (PollResult α)) : Prop where
  takes : after = before ∨ after.queued < before.queued
  fewer : ∀ value, answer = .ok (.ready value) → after.queued < before.queued

section Polls

variable (isOpen : ChannelId → Bool) (outlets : Outlets)

theorem Poller.consumes_poll (poller : Poller) :
    let polled := poller.poll isOpen outlets
    outlets.Consumes polled.2 (.ok (polled.1.map Gated.present)) := by
  have waiting := outlets.packets_inbox isOpen poller.channel
  have untaken := outlets.setPackets_queue poller.channel
  simp only [poll, Inbox.take, waiting]
  cases queued : outlets.queue poller.channel with
  | nil =>
      rw [queued] at waiting untaken
      simp only [waiting, untaken]
      refine ⟨.inl rfl, fun value ready => ?_⟩
      split at ready <;> cases ready
  | cons packet rest =>
      have left : rest <:+ outlets.queue poller.channel := queued ▸ List.suffix_cons ..
      have fewer := Outlets.queued_setPackets left
      rw [queued, List.length_cons] at fewer
      have less : (outlets.setPackets poller.channel rest).queued < outlets.queued := by omega
      exact ⟨.inr less, fun _ _ => less⟩

theorem GatedPoller.consumes_poll (poller : GatedPoller)
    (apart : poller.presence.channel ≠ poller.payload.channel) :
    let polled := poller.poll isOpen outlets
    outlets.Consumes polled.2.2 polled.1 := by
  intro polled
  let gate := poller.gate isOpen outlets
  obtain ⟨presence, payload⟩ :
      gate.poll.2.presence.packets <:+ outlets.queue poller.presence.channel ∧
        gate.poll.2.payload.packets <:+ outlets.queue poller.payload.channel := by
    rw [← outlets.packets_inbox isOpen, ← outlets.packets_inbox isOpen]
    exact gate.suffix_poll
  let read := outlets.setPackets poller.presence.channel gate.poll.2.presence.packets
  have unread : read.queue poller.payload.channel = outlets.queue poller.payload.channel :=
    Outlets.queue_setPackets_of_ne apart _
  have first : read.queued + _ = outlets.queued + _ := Outlets.queued_setPackets presence
  have second : polled.2.2.queued + (read.queue poller.payload.channel).length =
      read.queued + gate.poll.2.payload.packets.length :=
    Outlets.queued_setPackets (unread.symm ▸ payload)
  rw [unread] at second
  have fewest := presence.length_le
  have least := payload.length_le
  constructor
  · by_cases taken : polled.2.2.queued < outlets.queued
    · exact .inr taken
    · -- Nothing was taken from either queue, so both are written back as they were.
      have unsignalled := presence.eq_of_length (by omega)
      have unpaid := payload.eq_of_length (by omega)
      have untouched : read = outlets := by
        simp only [read, unsignalled, Outlets.setPackets_queue]
      refine .inl ?_
      change read.setPackets poller.payload.channel gate.poll.2.payload.packets = outlets
      rw [untouched, unpaid, Outlets.setPackets_queue]
  · intro gated ready
    have fewer : gate.poll.2.presence.packets.length + gate.poll.2.payload.packets.length <
        (outlets.inbox isOpen poller.presence.channel).packets.length +
          (outlets.inbox isOpen poller.payload.channel).packets.length :=
      Gate.fewer_of_ready ready
    rw [outlets.packets_inbox, outlets.packets_inbox] at fewer
    omega

end Polls

namespace OutputPoller

variable {poller : OutputPoller}

theorem consumes_answerOf {before after : Outlets}
    {answer : Except SessionError (PollResult Gated)} (consumes : before.Consumes after answer)
    (poller : OutputPoller) : before.Consumes after (poller.answerOf answer) := by
  refine ⟨consumes.takes, fun observation ready => ?_⟩
  rcases answer with error | (gated | _ | _)
  · cases ready
  · exact consumes.fewer gated rfl
  · cases ready
  · cases ready

theorem consumes_poll (own : poller.HasOwnQueues) (isOpen : ChannelId → Bool)
    (outlets : Outlets) :
    let polled := poller.poll isOpen outlets
    outlets.Consumes polled.2.2 polled.1 := by
  obtain ⟨task, source⟩ := poller
  cases source with
  | plain source =>
      rw [poll_plain]
      exact consumes_answerOf (source.consumes_poll isOpen outlets) _
  | gated source =>
      rw [poll_gated]
      exact consumes_answerOf (source.consumes_poll isOpen outlets own) _

/-- Where nobody fills the queues any more, a poll always says something. -/
theorem saysNothing_poll_nobody (poller : OutputPoller) (outlets : Outlets) :
    saysNothing (poller.poll nobody outlets).1 = false := by
  obtain ⟨task, source⟩ := poller
  cases source with
  | plain source =>
      rw [poll_plain, saysNothing_answerOf, Poller.poll, Outlets.inbox_nobody, Inbox.take]
      cases outlets.queue source.channel <;> rfl
  | gated source =>
      have closed (channel : ChannelId) : (outlets.inbox nobody channel).isOpen = false := by
        rw [Outlets.inbox_nobody]
      rw [poll_gated, saysNothing_answerOf]
      exact Gate.saysNothing_poll (closed _) (closed _)

theorem queued_detach_le (poller : OutputPoller) (outlets : Outlets) :
    (poller.detach outlets).queued ≤ outlets.queued := by
  obtain ⟨task, source⟩ := poller
  cases source with
  | plain source => exact outlets.queued_detach_le _
  | gated source => exact Nat.le_trans (Outlets.queued_detach_le ..) (outlets.queued_detach_le _)

end OutputPoller

namespace Session

variable {session : Session SessionEngine}

/-- The engine waits for room in a full queue. -/
def IsHeldUp (session : Session SessionEngine) : Prop :=
  ∃ worker, session.engine.worker = some worker ∧
    SessionEngine.HoldsUp worker session.outlets

theorem outstanding_settle (session : Session SessionEngine) :
    session.settle.outstanding ≤ session.outstanding :=
  SessionEngine.outstanding_advance session.engine session.outlets

theorem outstanding_release (session : Session SessionEngine) (poller : OutputPoller) :
    (session.release poller).outstanding ≤ session.outstanding := by
  have fewer := poller.queued_detach_le session.outlets
  exact Nat.le_trans (outstanding_settle _) (Nat.add_le_add_left fewer _)

theorem outstanding_poll {poller : OutputPoller} (own : poller.HasOwnQueues)
    (session : Session SessionEngine) :
    let polled := session.poll poller
    polled.2.2.outstanding ≤ session.outstanding ∧
      (∀ observation, polled.1 = .ok (.ready observation) →
        polled.2.2.outstanding < session.outstanding) ∧
      ((poller.poll session.isOpen session.outlets).2.2 = session.outlets ∨
        polled.2.2.outstanding < session.outstanding) := by
  have consumes := OutputPoller.consumes_poll own session.isOpen session.outlets
  let looked : Session SessionEngine :=
    { session with outlets := (poller.poll session.isOpen session.outlets).2.2 }
  have less (fewer : looked.outlets.queued < session.outlets.queued) :
      looked.settle.outstanding < session.outstanding :=
    Nat.lt_of_le_of_lt (outstanding_settle looked) (Nat.add_lt_add_left fewer _)
  change looked.settle.outstanding ≤ _ ∧ (∀ observation, _ → looked.settle.outstanding < _) ∧
    (looked.outlets = _ ∨ looked.settle.outstanding < _)
  refine ⟨?_, fun observation ready => less (consumes.fewer observation ready),
    consumes.takes.imp_right less⟩
  rcases consumes.takes with same | fewer
  · rw [show looked = session from congrArg (fun outlets => { session with outlets }) same]
    exact outstanding_settle session
  · exact Nat.le_of_lt (less fewer)

theorem IsHeldUp.settle_eq (held : session.IsHeldUp) : session.settle = session := by
  obtain ⟨worker, found, holdsUp⟩ := held
  have still : GraphEngine.advance session.engine session.outlets =
      (session.engine, session.outlets) :=
    ScriptedEngine.advance_of_isHeld found holdsUp.isHeld
  simp only [settle, still]

theorem settle_eq_of_idle (idle : session.engine.worker = none) : session.settle = session := by
  have still : GraphEngine.advance session.engine session.outlets =
      (session.engine, session.outlets) := by
    simp only [GraphEngine.advance, ScriptedEngine.advance, idle]
  simp only [settle, still]

/-- A session that does not run is done with everything, or held up. -/
theorem Settled.rests (settled : session.Settled) (coupled : session.Coupled)
    (stopped : session.state = .stopped) : session.Released ∨ session.IsHeldUp := by
  cases found : session.engine.worker with
  | none =>
      exact .inl ⟨coupled.agrees.cleared (by simp [stopped]), coupled.agrees.observers, found⟩
  | some worker => exact .inr ⟨worker, found, settled.holdsUp coupled (by simp [stopped]) found⟩

end Session

end FrameFlow
