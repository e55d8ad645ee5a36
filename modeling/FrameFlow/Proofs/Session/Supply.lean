import FrameFlow.Proofs.Engine.Emitting
import FrameFlow.Proofs.Graph.Packets
import FrameFlow.Proofs.Session.Draining
import FrameFlow.Proofs.Session.Settling

/-!
How packets get from an engine to a poller. A queue that a stream has to itself gets all of
the stream's packets in order, however often its worker has to wait for room.
-/

namespace FrameFlow

namespace Outlets

variable {outlets after : Outlets} {stream : String} {packet : Packet}

/-- Somebody may still read a queue. -/
def Stands (channel : ChannelId) (outlets : Outlets) : Prop :=
  ∃ queue, outlets.channels[channel]? = some queue ∧ queue.attached = true

theorem queue_congr {channel : ChannelId}
    (same : after.channels[channel]? = outlets.channels[channel]?) :
    after.queue channel = outlets.queue channel := by
  simp only [queue, inbox, same]

theorem Stands.congr {channel : ChannelId} (stands : outlets.Stands channel)
    (same : after.channels[channel]? = outlets.channels[channel]?) : after.Stands channel := by
  rwa [Stands, same]

theorem queue_of_channels {channel : ChannelId} (same : after.channels = outlets.channels) :
    after.queue channel = outlets.queue channel :=
  queue_congr (congrArg (·[channel]?) same)

theorem Stands.of_channels {channel : ChannelId} (stands : outlets.Stands channel)
    (same : after.channels = outlets.channels) : after.Stands channel :=
  stands.congr (congrArg (·[channel]?) same)

theorem queue_of_getElem? {channel : ChannelId} {queue : Channel}
    (found : outlets.channels[channel]? = some queue) :
    outlets.queue channel = queue.packets := by
  simp only [Outlets.queue, inbox, found]
  rfl

theorem Stands.deliver {channel : ChannelId} {binding : Binding} {answer : Except Status Unit}
    (stands : outlets.Stands channel)
    (delivered : deliver stream binding packet outlets = some (answer, after)) :
    after.Stands channel ∧ after.queue channel =
      outlets.queue channel ++ if binding = .poller channel then [packet] else [] := by
  have channels := channels_of_deliver delivered
  cases binding with
  | poller other =>
      obtain ⟨queue, here, attached⟩ := stands
      rcases channels with ⟨nowhere, same⟩ | ⟨target, sent, there, accepted, same⟩
      · have unlike : other ≠ channel := by
          rintro rfl
          exact nomatch here.symm.trans nowhere
        exact ⟨.of_channels ⟨queue, here, attached⟩ same,
          by simp [queue_of_channels same, unlike]⟩
      · by_cases own : other = channel
        · subst own
          obtain rfl : queue = target := Option.some.inj (here.symm.trans there)
          have inside := (List.getElem?_eq_some_iff.mp here).1
          have now : after.channels[other]? = some sent := by simp [same, inside]
          simp only [Channel.send, attached, if_true] at accepted
          split at accepted
          · contradiction
          · cases accepted
            refine ⟨⟨_, now, rfl⟩, ?_⟩
            rw [queue_of_getElem? now, queue_of_getElem? here, if_pos rfl]
        · have now : after.channels[channel]? = some queue := by
            rw [same, List.getElem?_set_ne own, here]
          refine ⟨⟨queue, now, attached⟩, ?_⟩
          rw [queue_of_getElem? now, queue_of_getElem? here]
          simp [own]
  | _ => exact ⟨stands.of_channels channels, by simp [queue_of_channels channels]⟩

end Outlets

/-- An engine that takes a frame owes what its graph emits for it, after all that it owed. -/
theorem ScriptedEngine.owed_accept {η φ : Type} {engine : ScriptedEngine η φ}
    {worker : Worker η φ} (found : engine.worker = some worker) (run : Run)
    (input : StampedFrame) :
    (engine.accept run input).owed =
      engine.owed ++ worker.graph.emissions (worker.index + worker.waiting.length) input := by
  have given : (engine.accept run input).worker = some (worker.enqueue input) := by
    rw [accept, found]
    rfl
  rw [owed, given, owed, found]
  exact worker.owed_enqueue input

theorem SessionEngine.channels_reportTo (sink : Option Unit) (fault : Fault)
    (outlets : Outlets) :
    (SessionEngine.reaction.reportTo sink fault outlets).channels = outlets.channels := by
  cases sink with
  | none => rfl
  | some sink =>
      simp only [Reaction.reportTo, SessionEngine.reaction, Outlets.report]
      split <;> rfl

namespace Poller

/-- The stream of a poller, and no other one, is bound to the poller's queue. -/
def Owns (poller : Poller) (observers : StreamMap Binding) : Prop :=
  ∀ stream, observers.find? stream = some (.poller poller.channel) ↔ stream = poller.stream

theorem Owns.brings {poller : Poller} {observers : StreamMap Binding}
    (owns : poller.Owns observers) (sink : Option Unit) :
    SessionEngine.reaction.Brings observers sink (Outlets.Stands poller.channel)
      (Outlets.queue · poller.channel) (Emission.on poller.stream) where
  emit := by
    intro emission world after stands emitted
    cases emission with
    | fault fault =>
        cases emitted
        have same := SessionEngine.channels_reportTo sink fault world
        exact ⟨stands.of_channels same, by simp [Outlets.queue_of_channels same, Emission.on]⟩
    | packet stream packet =>
        cases found : observers.find? stream with
        | none =>
            have unlike : stream ≠ poller.stream := by
              intro same
              rw [(owns stream).mpr same] at found
              contradiction
            simp only [Reaction.emit, found, Option.some.injEq] at emitted
            exact ⟨emitted ▸ stands, by simp [← emitted, Emission.on, unlike]⟩
        | some binding =>
            simp only [Reaction.emit, found, Option.map_eq_some_iff] at emitted
            obtain ⟨⟨answer, middle⟩, delivered, rfl⟩ := emitted
            obtain ⟨standing, brought⟩ := stands.deliver delivered
            have same := owns stream
            rw [found, Option.some.injEq] at same
            simp only [same] at brought
            cases answer with
            | ok done => exact ⟨standing, brought⟩
            | error status =>
                have same := SessionEngine.channels_reportTo sink
                  ⟨some stream, some packet.timestamp, status⟩ middle
                exact ⟨standing.of_channels same, (Outlets.queue_of_channels same).trans brought⟩

/-- A poller's queue gets the packets of its stream from a worker, which was given a number of
frames so far. -/
structure IsSupplied (poller : Poller) (graph : Graph) (count : Nat) (engine : SessionEngine)
    (outlets : Outlets) : Prop where
  stands : outlets.Stands poller.channel
  worker : ∀ worker, engine.worker = some worker →
    worker.graph = graph ∧ poller.Owns worker.observers ∧
      worker.index + worker.waiting.length = count

/-- The packets that are to come to a poller: those that the worker still owes, and those of
later frames. -/
def unsent (poller : Poller) (graph : Graph) (count : Nat) (later : List StampedFrame)
    (engine : SessionEngine) : List Packet :=
  engine.owed.flatMap (Emission.on poller.stream) ++ graph.packetsOn poller.stream count later

/-- The packets that a poller has not taken yet. -/
def ahead (poller : Poller) (graph : Graph) (count : Nat) (later : List StampedFrame)
    (engine : SessionEngine) (outlets : Outlets) : List Packet :=
  outlets.queue poller.channel ++ poller.unsent graph count later engine

theorem unsent_of_idle {poller : Poller} {engine : SessionEngine}
    (idle : engine.worker = none) (graph : Graph) (count : Nat) :
    poller.unsent graph count [] engine = [] := by
  rw [unsent, ScriptedEngine.owed, idle]
  rfl

variable {poller : Poller} {graph : Graph} {count : Nat} {engine : SessionEngine}
  {outlets : Outlets}

theorem IsSupplied.congr {after : Outlets}
    (supplied : poller.IsSupplied graph count engine outlets)
    (same : after.channels[poller.channel]? = outlets.channels[poller.channel]?) :
    poller.IsSupplied graph count engine after :=
  ⟨supplied.stands.congr same, supplied.worker⟩

/-- What lies ahead of a poller does not depend on the queues of others. -/
theorem ahead_congr {after : Outlets}
    (same : after.channels[poller.channel]? = outlets.channels[poller.channel]?)
    (later : List StampedFrame) :
    poller.ahead graph count later engine after =
      poller.ahead graph count later engine outlets := by
  rw [ahead, Outlets.queue_congr same]
  rfl

/-- A worker that goes on brings to the queue what it owed. -/
theorem IsSupplied.onward {worker : Worker Binding Unit} {after : SessionEngine × Outlets}
    (supplied : poller.IsSupplied graph count engine outlets)
    (found : engine.worker = some worker)
    (brought : after.2.Stands poller.channel ∧
      after.2.queue poller.channel ++ after.1.owed.flatMap (Emission.on poller.stream) =
        outlets.queue poller.channel ++ engine.owed.flatMap (Emission.on poller.stream) ∧
      ∀ left, after.1.worker = some left → worker.Continues left) :
    poller.IsSupplied graph count after.1 after.2 ∧
      ∀ later, poller.ahead graph count later after.1 after.2 =
        poller.ahead graph count later engine outlets := by
  obtain ⟨played, owns, position⟩ := supplied.worker worker found
  obtain ⟨stands, same, continues⟩ := brought
  refine ⟨⟨stands, fun left known => ?_⟩, fun later => ?_⟩
  · have goesOn := continues left known
    exact ⟨goesOn.graph.trans played, goesOn.observers ▸ owns, goesOn.position.trans position⟩
  · rw [ahead, unsent, ← List.append_assoc, same, List.append_assoc]
    rfl

theorem IsSupplied.advance (supplied : poller.IsSupplied graph count engine outlets) :
    let worked := engine.advance SessionEngine.reaction outlets
    poller.IsSupplied graph count worked.1 worked.2 ∧
      ∀ later, poller.ahead graph count later worked.1 worked.2 =
        poller.ahead graph count later engine outlets := by
  cases found : engine.worker with
  | none =>
      have idle : engine.advance SessionEngine.reaction outlets = (engine, outlets) := by
        simp only [ScriptedEngine.advance, found]
      rw [idle]
      exact ⟨supplied, fun _ => rfl⟩
  | some worker =>
      have owns := (supplied.worker worker found).2.1
      exact supplied.onward found
        (ScriptedEngine.advance_brings found (owns.brings worker.sink) supplied.stands)

theorem IsSupplied.accept {worker : Worker Binding Unit}
    (supplied : poller.IsSupplied graph count engine outlets)
    (found : engine.worker = some worker) (run : Run) (input : StampedFrame) :
    poller.IsSupplied graph (count + 1) (engine.accept run input) outlets ∧
      ∀ later, poller.ahead graph (count + 1) later (engine.accept run input) outlets =
        poller.ahead graph count (input :: later) engine outlets := by
  obtain ⟨played, owns, position⟩ := supplied.worker worker found
  have given : (engine.accept run input).worker = some (worker.enqueue input) := by
    rw [ScriptedEngine.accept, found]
    rfl
  constructor
  · refine ⟨supplied.stands, fun left known => ?_⟩
    cases given.symm.trans known
    have longer : (worker.enqueue input).waiting.length = worker.waiting.length + 1 :=
      List.length_append
    exact ⟨played, owns, by rw [longer, ← position]; rfl⟩
  · intro later
    simp only [ahead, unsent, ScriptedEngine.owed_accept found, played, position,
      Graph.packetsOn, Graph.emissionsFrom, List.flatMap_append, List.append_assoc]

end Poller

end FrameFlow
