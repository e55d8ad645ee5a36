import FrameFlow.Proofs.Engine.Pace
import FrameFlow.Proofs.Engine.Streams
import FrameFlow.Proofs.Session.Observing

/-!
Kinds of packets on their way through a session. Bindings are made for kinds that the graph
declares, the script emits no others, and so neither a binding nor a poller ever meets a packet
that it cannot handle.
-/

namespace FrameFlow

/-- The kinds of packets that callers expect in queues. -/
abbrev QueueKinds := List (ChannelId × PayloadKind)

def OutputPoller.expects (poller : OutputPoller) : QueueKinds :=
  match poller.source with
  | .plain source => [(source.channel, poller.task.payload)]
  | .gated source =>
      [(source.payload.channel, poller.task.payload), (source.presence.channel, .presence)]

def Answer.expects : Answer → QueueKinds
  | .outputs poller => poller.expects
  | _ => []

namespace Graph

variable {graph : Graph} {kinds fresh : QueueKinds} {count more index : Nat} {stream : String}
  {binding : Binding} {input : StampedFrame} {packet : Packet}

/-- A stream carries what its binding can handle. A poller has one of the queues made so far. -/
def Suits (graph : Graph) (kinds : QueueKinds) (count : Nat) (stream : String) : Binding → Prop
  | .output task _ _ => graph.outputStreams.find? stream = some task.payload
  | .packets _ => True
  | .preview _ | .latest _ => graph.previewStream = some stream
  | .poller channel => channel < count ∧
      ∀ kind, (channel, kind) ∈ kinds → graph.outputStreams.find? stream = some kind

/-- New queues do not matter to bindings that have other ones. -/
theorem Suits.grow (suits : graph.Suits kinds count stream binding)
    (apart : ∀ channel kind, (channel, kind) ∈ fresh → count ≤ channel) (le : count ≤ more) :
    graph.Suits (kinds ++ fresh) more stream binding := by
  cases binding with
  | poller channel =>
      obtain ⟨within, declared⟩ := suits
      refine ⟨Nat.lt_of_lt_of_le within le, fun kind known => ?_⟩
      rcases List.mem_append.mp known with old | new
      · exact declared kind old
      · exact absurd (apart channel kind new) (Nat.not_le_of_lt within)
  | _ => exact suits

/-- A fault of a script is never one of a refused packet. -/
theorem code_of_mem_emissions {fault : Fault}
    (member : .fault fault ∈ graph.emissions index input) :
    fault.status.code = .internal := by
  rcases List.mem_append.mp member with scripted | shown
  · obtain ⟨⟨other, value⟩, _, same⟩ := List.mem_map.mp scripted
    cases value with
    | payload content => cases same
    | error message =>
        cases same
        rfl
  · split at shown <;> simp at shown

/-- What a script emits is handled by every binding that suits its stream. -/
theorem Suits.accepts (suits : graph.Suits kinds count stream binding)
    (wellFormed : graph.WellFormed) (emitted : .packet stream packet ∈ graph.emissions index input)
    {outlets after : Outlets} {answer : Except Status Unit}
    (delivered : Outlets.deliver stream binding packet outlets = some (answer, after)) :
    answer = .ok () := by
  cases binding with
  | output task slot listener =>
      have typed : packet.payload.kind = task.payload := by
        rcases wellFormed.mem_emissions emitted with ⟨declared, _⟩ | ⟨undeclared, _⟩
        · exact Option.some.inj (declared.symm.trans suits)
        · exact absurd (suits.symm.trans undeclared) (Option.some_ne_none _)
      obtain ⟨output, decoded⟩ := Task.exists_decode typed stream
      simp only [Outlets.deliver, Outlets.handle, decoded, Option.some.injEq, Prod.mk.injEq]
        at delivered
      exact delivered.1.symm
  | packets listener =>
      cases delivered
      rfl
  | preview listener =>
      have image := wellFormed.image_of_preview suits emitted
      simp only [Outlets.deliver, Outlets.handle, image, Option.some.injEq, Prod.mk.injEq]
        at delivered
      exact delivered.1.symm
  | latest place =>
      have image := wellFormed.image_of_preview suits emitted
      simp only [Outlets.deliver, Outlets.handle, image, Option.some.injEq, Prod.mk.injEq]
        at delivered
      exact delivered.1.symm
  | poller channel =>
      simp only [Outlets.deliver, Outlets.handle, Option.map_eq_some_iff] at delivered
      obtain ⟨sent, _, same⟩ := delivered
      cases same
      rfl

end Graph

namespace Outlets

variable {outlets after : Outlets} {kinds : QueueKinds} {stream : String} {binding : Binding}
  {packet : Packet} {answer : Except Status Unit}

/-- Queues hold what callers expect of them, and no refused packet was told of. -/
structure Typed (kinds : QueueKinds) (outlets : Outlets) : Prop where
  known : ∀ channel kind, (channel, kind) ∈ kinds → channel < outlets.channels.length
  queued : ∀ channel kind, (channel, kind) ∈ kinds →
    ∀ packet ∈ outlets.queue channel, packet.payload.kind = kind
  told : ∀ listener error, .failure listener error ∈ outlets.events →
    ∃ fault, error = .engineRuntime fault ∧ fault.status.code = .internal

/-- Packets may have left queues, and no new ones came. -/
structure Loses (before after : Outlets) : Prop where
  length : after.channels.length = before.channels.length
  queues : ∀ channel, ∀ packet ∈ after.queue channel, packet ∈ before.queue channel
  events : after.events = before.events

theorem Loses.of_channels (channels : after.channels = outlets.channels)
    (events : after.events = outlets.events) : outlets.Loses after :=
  ⟨congrArg List.length channels,
    fun _ _ member => queue_of_channels channels ▸ member, events⟩

theorem Typed.loses (typed : outlets.Typed kinds) (loses : outlets.Loses after) :
    after.Typed kinds where
  known channel kind known := loses.length ▸ typed.known channel kind known
  queued channel kind known packet member :=
    typed.queued channel kind known packet (loses.queues channel packet member)
  told listener error member := typed.told listener error (loses.events ▸ member)

theorem mem_queue_of_deliver
    (delivered : deliver stream binding packet outlets = some (answer, after))
    {channel : ChannelId} {other : Packet} (member : other ∈ after.queue channel) :
    other ∈ outlets.queue channel ∨ binding = .poller channel ∧ other = packet := by
  have channels := channels_of_deliver delivered
  cases binding with
  | poller bound =>
      rcases channels with ⟨_, same⟩ | ⟨queue, sent, found, accepted, same⟩
      · rw [queue_of_channels same] at member
        exact .inl member
      · by_cases own : bound = channel
        · subst own
          have inside := (List.getElem?_eq_some_iff.mp found).1
          have now : after.channels[bound]? = some sent := by simp [same, inside]
          rw [queue_of_getElem? now] at member
          rw [queue_of_getElem? found]
          unfold Channel.send at accepted
          split at accepted
          · split at accepted
            · contradiction
            · cases accepted
              rcases List.mem_append.mp member with old | new
              · exact .inl old
              · exact .inr ⟨rfl, List.mem_singleton.mp new⟩
          · cases accepted
            exact .inl member
        · have now : after.channels[channel]? = outlets.channels[channel]? := by
            rw [same, List.getElem?_set_ne own]
          rw [Outlets.queue, inbox, now] at member
          exact .inl member
  | _ =>
      rw [queue_of_channels channels] at member
      exact .inl member

/-- What a binding tells listeners of a packet that it is given. -/
def told (stream : String) (packet : Packet) : Binding → List Event
  | .output task slot listener =>
      match task.decode stream packet.payload with
      | .ok output => [.output listener slot packet.timestamp output]
      | .error _ => []
  | .packets listener => [.packet listener stream packet]
  | .preview listener =>
      match packet.payload with
      | .image frame => [.preview listener ⟨packet.timestamp, frame⟩]
      | _ => []
  | .latest _ | .poller _ => []

theorem events_of_deliver
    (delivered : deliver stream binding packet outlets = some (answer, after)) :
    after.events = outlets.events ++ told stream packet binding ∧
      after.errorListener = outlets.errorListener := by
  simp only [deliver] at delivered
  cases binding with
  | output task slot other =>
      rw [told]
      rw [handle] at delivered
      cases decoded : task.decode stream packet.payload with
      | ok output =>
          rw [decoded] at delivered
          cases delivered
          exact ⟨rfl, rfl⟩
      | error error =>
          rw [decoded] at delivered
          cases delivered
          exact ⟨(List.append_nil _).symm, rfl⟩
  | packets other =>
      cases delivered
      exact ⟨rfl, rfl⟩
  | preview other =>
      cases content : packet.payload with
      | image frame =>
          simp only [handle, content] at delivered
          cases delivered
          simp only [told, content]
          exact ⟨rfl, rfl⟩
      | _ =>
          simp only [handle, content] at delivered
          cases delivered
          simp only [told, content]
          exact ⟨(List.append_nil _).symm, rfl⟩
  | latest place =>
      simp only [handle] at delivered
      split at delivered <;> cases delivered <;> exact ⟨(List.append_nil _).symm, rfl⟩
  | poller channel =>
      simp only [handle, send, Option.map_eq_some_iff] at delivered
      obtain ⟨sent, accepted, same⟩ := delivered
      cases same
      split at accepted
      · cases accepted
        exact ⟨(List.append_nil _).symm, rfl⟩
      · obtain ⟨queue, _, rfl⟩ := Option.map_eq_some_iff.mp accepted
        exact ⟨(List.append_nil _).symm, rfl⟩

/-- A binding tells of packets, never of failures. -/
theorem failures_of_deliver
    (delivered : deliver stream binding packet outlets = some (answer, after))
    {listener : Listener} {error : SessionError}
    (member : .failure listener error ∈ after.events) :
    .failure listener error ∈ outlets.events := by
  rw [(events_of_deliver delivered).1] at member
  refine (List.mem_append.mp member).resolve_right fun new => ?_
  cases binding with
  | output task slot other =>
      rw [told] at new
      cases decoded : task.decode stream packet.payload with
      | ok output => simp [decoded] at new
      | error error => simp [decoded] at new
  | preview other =>
      rw [told] at new
      cases content : packet.payload <;> simp [content] at new
  | packets other => simp [told] at new
  | _ => contradiction

theorem Typed.reportTo (typed : outlets.Typed kinds) (sink : Option Unit) {fault : Fault}
    (scripted : fault.status.code = .internal) :
    (SessionEngine.reaction.reportTo sink fault outlets).Typed kinds := by
  have channels := SessionEngine.channels_reportTo sink fault outlets
  refine ⟨fun channel kind known => ?_, fun channel kind known packet member => ?_,
    fun listener error member => ?_⟩
  · rw [channels]
    exact typed.known channel kind known
  · rw [queue_of_channels channels] at member
    exact typed.queued channel kind known packet member
  · cases sink with
    | none => exact typed.told listener error member
    | some sink =>
        simp only [Reaction.reportTo, SessionEngine.reaction, report] at member
        split at member
        · rcases List.mem_append.mp member with old | new
          · exact typed.told listener error old
          · cases List.mem_singleton.mp new
            exact ⟨fault, rfl, scripted⟩
        · exact typed.told listener error member

end Outlets

namespace SessionEngine

variable {graph : Graph} {kinds fresh : QueueKinds} {count index : Nat} {input : StampedFrame}

/-- A worker plays an accepted script for observers that suit it. -/
structure TypedWorker (kinds : QueueKinds) (count : Nat) (worker : Worker Binding Unit) : Prop where
  wellFormed : worker.graph.WellFormed
  suits : ∀ stream binding, worker.observers.find? stream = some binding →
    worker.graph.Suits kinds count stream binding
  current : ∀ emission ∈ worker.current,
    ∃ index input, emission ∈ worker.graph.emissions index input

/-- An engine that works for some outlets finds all packets to be of the kinds that are expected. -/
structure Typed (kinds : QueueKinds) (engine : SessionEngine) (outlets : Outlets) : Prop where
  queues : outlets.Typed kinds
  worker : ∀ worker, engine.worker = some worker →
    TypedWorker kinds outlets.channels.length worker

theorem length_channels_of_fittings {outlets after : Outlets}
    (same : after.fittings = outlets.fittings) :
    after.channels.length = outlets.channels.length := by
  simpa [Outlets.fittings] using congrArg List.length same

/-- No observer refuses what the script has for it, so an emission brings a packet to a queue
that expects it, or tells of an error of the script. -/
theorem typed_of_emit {observers : StreamMap Binding} {sink : Option Unit} {emission : Emission}
    {outlets after : Outlets} (typed : outlets.Typed kinds) (wellFormed : graph.WellFormed)
    (suits : ∀ stream binding, observers.find? stream = some binding →
      graph.Suits kinds outlets.channels.length stream binding)
    (scripted : emission ∈ graph.emissions index input)
    (emitted : reaction.emit observers sink emission outlets = some after) :
    after.Typed kinds := by
  cases emission with
  | fault fault =>
      cases emitted
      exact typed.reportTo sink (Graph.code_of_mem_emissions scripted)
  | packet stream packet =>
      cases found : observers.find? stream with
      | none =>
          simp only [Reaction.emit, found, Option.some.injEq] at emitted
          exact emitted ▸ typed
      | some binding =>
          simp only [Reaction.emit, found, Option.map_eq_some_iff] at emitted
          obtain ⟨⟨answer, middle⟩, delivered, same⟩ := emitted
          obtain rfl := (suits stream binding found).accepts wellFormed scripted delivered
          obtain rfl : middle = after := same
          have length := length_channels_of_fittings (Outlets.fittings_of_deliver delivered)
          refine ⟨fun channel kind known => ?_, fun channel kind known other member => ?_,
            fun listener error member =>
              typed.told listener error (Outlets.failures_of_deliver delivered member)⟩
          · rw [length]
            exact typed.known channel kind known
          · rcases Outlets.mem_queue_of_deliver delivered member with old | ⟨rfl, rfl⟩
            · exact typed.queued channel kind known other old
            · have declared := (suits stream (.poller channel) found).2 kind known
              rcases wellFormed.mem_emissions scripted with ⟨same, _⟩ | ⟨undeclared, _⟩
              · exact Option.some.inj (same.symm.trans declared)
              · exact absurd (declared.symm.trans undeclared) (Option.some_ne_none _)

theorem Typed.step {before after : SessionEngine × Outlets} (typed : Typed kinds before.1 before.2)
    (step : ScriptedEngine.WorkerStep reaction before after) : Typed kinds after.1 after.2 := by
  cases step with
  | @begins _ _ worker input _ found rested waiting =>
      have works := typed.worker worker found
      refine ⟨typed.queues, ?_⟩
      rintro _ ⟨⟩
      exact ⟨works.wellFormed, works.suits, fun emission member => ⟨_, _, member⟩⟩
  | @emits _ _ worker emission rest middle found current emitted =>
      have works := typed.worker worker found
      obtain ⟨index, input, scripted⟩ := works.current emission (by rw [current]; simp)
      have length := length_channels_of_fittings ((reaction_keeps _).emit rfl emitted)
      refine ⟨typed_of_emit typed.queues works.wellFormed works.suits scripted emitted, ?_⟩
      rintro _ ⟨⟩
      refine ⟨works.wellFormed, ?_, fun other member => works.current other ?_⟩
      · rw [length]
        exact works.suits
      · rw [current]
        exact List.mem_cons_of_mem _ member
  | ends found idled closed =>
      exact ⟨typed.queues, fun _ left => absurd left.symm (Option.some_ne_none _)⟩

theorem Typed.advance {engine : SessionEngine} {outlets : Outlets}
    (typed : Typed kinds engine outlets) :
    let worked := engine.advance reaction outlets
    Typed kinds worked.1 worked.2 := by
  have steps := ScriptedEngine.steps_advance reaction engine outlets
  generalize engine.advance reaction outlets = worked at steps ⊢
  induction steps with
  | refl => exact typed
  | tail _ step ih => exact ih.step step

/-- The worker stays in place while more queues are made and packets are taken. -/
theorem Typed.withOutlets {engine : SessionEngine} {outlets after : Outlets}
    (typed : Typed kinds engine outlets) (now : after.Typed (kinds ++ fresh))
    (apart : ∀ channel kind, (channel, kind) ∈ fresh → outlets.channels.length ≤ channel)
    (length : outlets.channels.length ≤ after.channels.length) :
    Typed (kinds ++ fresh) engine after :=
  ⟨now, fun worker found =>
    let works := typed.worker worker found
    ⟨works.wellFormed, fun stream binding bound => (works.suits stream binding bound).grow apart
      length, works.current⟩⟩

end SessionEngine

namespace Outlets

variable {outlets : Outlets} {kinds fresh : QueueKinds}

theorem mem_queue_setPackets {channel other : ChannelId} {packets : List Packet} {packet : Packet}
    (member : packet ∈ (outlets.setPackets channel packets).queue other) :
    packet ∈ outlets.queue other ∨ other = channel ∧ packet ∈ packets := by
  by_cases same : channel = other
  · subst same
    cases found : outlets.channels[channel]? with
    | none => simp [queue, inbox, setPackets, found] at member
    | some held =>
        exact .inr ⟨rfl, by simpa [queue, inbox, setPackets, found, Channel.inbox] using member⟩
  · rw [queue_setPackets_of_ne same] at member
    exact .inl member

theorem mem_queue_of_detach {channel other : ChannelId} {packet : Packet}
    (member : packet ∈ (outlets.detach channel).queue other) : packet ∈ outlets.queue other := by
  by_cases same : channel = other
  · subst same
    cases found : outlets.channels[channel]? with
    | none => simp [queue, inbox, detach, found] at member
    | some held => simp [queue, inbox, detach, found, Channel.detach, Channel.inbox] at member
  · simpa [queue, inbox, detach, same] using member

theorem loses_detach (outlets : Outlets) (channel : ChannelId) :
    outlets.Loses (outlets.detach channel) :=
  ⟨List.length_modify .., fun _ _ member => mem_queue_of_detach member, rfl⟩

theorem Loses.trans {middle after : Outlets} (first : outlets.Loses middle)
    (second : middle.Loses after) : outlets.Loses after :=
  ⟨second.length.trans first.length,
    fun channel packet member => first.queues channel packet (second.queues channel packet member),
    second.events.trans first.events⟩

/-- New queues are empty. -/
theorem Typed.addChannel (typed : outlets.Typed kinds) (capacity : Option Nat)
    (new : ∀ channel kind, (channel, kind) ∈ fresh → channel = outlets.channels.length) :
    (outlets.addChannel capacity).2.Typed (kinds ++ fresh) := by
  have longer : (outlets.addChannel capacity).2.channels.length = outlets.channels.length + 1 := by
    simp [Outlets.addChannel]
  refine ⟨fun channel kind known => ?_, fun channel kind known packet member => ?_, typed.told⟩
  · rw [longer]
    rcases List.mem_append.mp known with old | made
    · exact Nat.lt_succ_of_lt (typed.known channel kind old)
    · exact new channel kind made ▸ Nat.lt_succ_self _
  · rcases List.mem_append.mp known with old | made
    · have inside := typed.known channel kind old
      refine typed.queued channel kind old packet ?_
      simpa [queue, inbox, Outlets.addChannel, List.getElem?_append_left inside] using member
    · obtain rfl := new channel kind made
      simp [queue, inbox, Outlets.addChannel, Channel.ofCapacity, Channel.inbox] at member

end Outlets

section Taking

variable {gate : Gate} {isOpen : ChannelId → Bool} {outlets : Outlets} {kinds : QueueKinds}

theorem Inbox.suffix_take (inbox : Inbox) : inbox.take.2.packets <:+ inbox.packets := by
  unfold Inbox.take
  split
  · rename_i first rest waiting
    rw [waiting]
    exact List.suffix_cons ..
  · exact List.suffix_refl _

theorem Gate.suffix_takePayload (gate : Gate) (due : Timestamp) :
    (gate.takePayload due).2.presence.packets <:+ gate.presence.packets ∧
      (gate.takePayload due).2.payload.packets <:+ gate.payload.packets := by
  have left := gate.payload.suffix_take
  unfold takePayload
  split
  · rename_i found rest taken
    rw [taken] at left
    split <;> exact ⟨List.suffix_refl _, left⟩
  · exact ⟨List.suffix_refl _, List.suffix_refl _⟩
  · exact ⟨List.suffix_refl _, List.suffix_refl _⟩

/-- A poll takes packets from the front of both queues. -/
theorem Gate.suffix_poll (gate : Gate) :
    gate.poll.2.presence.packets <:+ gate.presence.packets ∧
      gate.poll.2.payload.packets <:+ gate.payload.packets := by
  have left := gate.presence.suffix_take
  rw [poll_eq]
  split
  · exact gate.suffix_takePayload _
  · split
    · exact ⟨List.suffix_refl _, List.suffix_refl _⟩
    · exact ⟨List.suffix_refl _, List.suffix_refl _⟩
    · rename_i found rest taken
      rw [taken] at left
      simp only
      split
      · obtain ⟨presence, payload⟩ :=
          suffix_takePayload { gate with presence := rest } found.timestamp
        exact ⟨presence.trans left, payload⟩
      · exact ⟨left, List.suffix_refl _⟩
      · exact ⟨left, List.suffix_refl _⟩

theorem Poller.loses_poll (poller : Poller) : outlets.Loses (poller.poll isOpen outlets).2 := by
  refine ⟨List.length_modify .., fun channel packet member => ?_, rfl⟩
  rcases Outlets.mem_queue_setPackets member with old | ⟨rfl, left⟩
  · exact old
  · rw [← outlets.packets_inbox isOpen]
    exact (Inbox.suffix_take _).subset left

theorem GatedPoller.loses_poll (poller : GatedPoller) :
    outlets.Loses (poller.poll isOpen outlets).2.2 := by
  have fewer := (poller.gate isOpen outlets).suffix_poll
  refine ⟨(List.length_modify ..).trans (List.length_modify ..), fun channel packet member => ?_,
    rfl⟩
  rcases Outlets.mem_queue_setPackets member with signalled | ⟨rfl, left⟩
  · rcases Outlets.mem_queue_setPackets signalled with old | ⟨rfl, left⟩
    · exact old
    · rw [← outlets.packets_inbox isOpen]
      exact fewer.1.subset left
  · rw [← outlets.packets_inbox isOpen]
    exact fewer.2.subset left

theorem OutputPoller.loses_poll (poller : OutputPoller) :
    outlets.Loses (poller.poll isOpen outlets).2.2 := by
  obtain ⟨task, source⟩ := poller
  cases source with
  | plain source => exact source.loses_poll
  | gated source => exact source.loses_poll

theorem OutputPoller.loses_detach (poller : OutputPoller) (outlets : Outlets) :
    outlets.Loses (poller.detach outlets) := by
  obtain ⟨task, source⟩ := poller
  cases source with
  | plain source => exact outlets.loses_detach source.channel
  | gated source =>
      exact (outlets.loses_detach source.payload.channel).trans (Outlets.loses_detach ..)

/-- A poll has no packet to hand out, or one of a sort; or the payload of another frame stands
in the way. -/
def IsExpected (holds : Packet → Prop) : Except SessionError (PollResult Gated) → Prop
  | .ok (.ready (.present packet)) => holds packet
  | .ok _ => True
  | .error error => ∃ stream due found, error = .pairingBroken stream due found

theorem Gate.takePayload_expected (gate : Gate) (due : Timestamp) :
    IsExpected (· ∈ gate.payload.packets) (gate.takePayload due).1 := by
  obtain ⟨presenceStream, payloadStream, presence, ⟨payloads, isOpen⟩, pending⟩ := gate
  cases payloads with
  | nil => cases isOpen <;> trivial
  | cons packet rest =>
      by_cases same : packet.timestamp = due <;> simp [takePayload, Inbox.take, same, IsExpected]

/-- A gate that has only presences where it looks for them hands out payloads that waited. -/
theorem Gate.poll_expected
    (signals : ∀ packet ∈ gate.presence.packets, packet.payload.kind = .presence) :
    IsExpected (· ∈ gate.payload.packets) gate.poll.1 := by
  obtain ⟨presenceStream, payloadStream, ⟨presences, isOpen⟩, payload, pending⟩ := gate
  cases pending with
  | some due => exact takePayload_expected _ due
  | none =>
      cases presences with
      | nil => cases isOpen <;> trivial
      | cons packet rest =>
          obtain ⟨timestamp, content⟩ := packet
          have signal := signals _ (List.mem_cons_self ..)
          cases content with
          | presence isPresent =>
              cases isPresent with
              | true =>
                  exact takePayload_expected
                    ⟨presenceStream, payloadStream, ⟨rest, isOpen⟩, payload, none⟩ timestamp
              | false => trivial
          | _ => contradiction

namespace OutputPoller

variable {poller : OutputPoller}

theorem poll_eq_answerOf (poller : OutputPoller) (isOpen : ChannelId → Bool)
    (outlets : Outlets) :
    (poller.poll isOpen outlets).1 = poller.answerOf (poller.pollSource isOpen outlets).1 := by
  have same : (poller.pollSource isOpen outlets).2.1.observe = poller.observe := by
    obtain ⟨task, source⟩ := poller
    cases source <;> rfl
  simp only [poll, same]
  rcases (poller.pollSource isOpen outlets).1 with error | (gated | _ | _) <;> rfl

theorem pollSource_expected (typed : outlets.Typed kinds)
    (expects : ∀ entry ∈ poller.expects, entry ∈ kinds) :
    IsExpected (·.payload.kind = poller.task.payload) (poller.pollSource isOpen outlets).1 := by
  have inbox {channel : ChannelId} {kind : PayloadKind} (known : (channel, kind) ∈ kinds) :
      ∀ packet ∈ (outlets.inbox isOpen channel).packets, packet.payload.kind = kind := by
    rw [outlets.packets_inbox isOpen]
    exact typed.queued channel kind known
  obtain ⟨task, source⟩ := poller
  cases source with
  | plain source =>
      have own := inbox (expects _ (List.mem_singleton_self _))
      simp only [pollSource, Poller.poll, Inbox.take]
      cases waiting : (outlets.inbox isOpen source.channel).packets with
      | nil => cases (outlets.inbox isOpen source.channel).isOpen <;> trivial
      | cons packet rest => exact own packet (by rw [waiting]; exact List.mem_cons_self ..)
  | gated source =>
      have own := inbox (expects (source.payload.channel, task.payload)
        (by simp [OutputPoller.expects]))
      have polled := @Gate.poll_expected (source.gate isOpen outlets)
        (inbox (expects (source.presence.channel, .presence) (by simp [OutputPoller.expects])))
      simp only [pollSource, GatedPoller.poll]
      generalize (source.gate isOpen outlets).poll.1 = answer at polled ⊢
      rcases answer with error | ((packet | timestamp) | _ | _)
      · exact polled
      · exact own packet polled
      all_goals trivial

/-- A poller whose queues hold what it expects is never surprised by a packet. -/
theorem poll_ne_unexpectedPayload (typed : outlets.Typed kinds)
    (expects : ∀ entry ∈ poller.expects, entry ∈ kinds) (stream : String)
    (wanted found : PayloadKind) :
    (poller.poll isOpen outlets).1 ≠ .error (.unexpectedPayload stream wanted found) := by
  have polled := @pollSource_expected isOpen outlets kinds poller typed expects
  rw [poll_eq_answerOf]
  generalize (poller.pollSource isOpen outlets).1 = answer at polled ⊢
  rcases answer with error | ((packet | timestamp) | _ | _)
  · obtain ⟨_, _, _, rfl⟩ := polled
    simp [answerOf]
  · obtain ⟨output, decoded⟩ := Task.exists_decode polled poller.stream
    simp [answerOf, observe, decoded, Except.map]
  · simp [answerOf, observe, Except.map]
  · simp [answerOf]
  · simp [answerOf]

end OutputPoller

end Taking

end FrameFlow
