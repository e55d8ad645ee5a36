import FrameFlow.Proofs.Graph.Acceptance
import FrameFlow.Proofs.Session.Bindings
import FrameFlow.Proofs.Session.Pairing
import FrameFlow.Proofs.Session.Reading
import FrameFlow.Proofs.Session.Release
import FrameFlow.Proofs.Session.Service

/-!
A gated poller while its session runs. Frames are fed, outputs are polled and the session is
stopped in any order, and queues may be so small that the engine has to wait for polls. What
is observed depends on none of that, only on the frames.
-/

namespace FrameFlow

namespace Outlets

variable {outlets : Outlets} {channel : ChannelId}

theorem Stands.setPackets (stands : outlets.Stands channel) (other : ChannelId)
    (packets : List Packet) :
    (outlets.setPackets other packets).Stands channel ∧
      (outlets.setPackets other packets).queue channel =
        if other = channel then packets else outlets.queue channel := by
  obtain ⟨queue, found, attached⟩ := stands
  by_cases same : other = channel
  · subst same
    have read : (outlets.setPackets other packets).channels[other]? =
        some { queue with packets } := by
      simp [Outlets.setPackets, found]
    exact ⟨⟨_, read, attached⟩, by rw [queue_of_getElem? read, if_pos rfl]⟩
  · have kept : (outlets.setPackets other packets).channels[channel]? = some queue := by
      simp [Outlets.setPackets, same, found]
    exact ⟨⟨queue, kept, attached⟩, by
      rw [queue_of_getElem? kept, queue_of_getElem? found, if_neg same]⟩

theorem Stands.inbox_eq (stands : outlets.Stands channel) (isOpen : ChannelId → Bool) :
    outlets.inbox isOpen channel = ⟨outlets.queue channel, isOpen channel⟩ := by
  obtain ⟨queue, found, _⟩ := stands
  rw [queue_of_getElem? found, inbox, found]
  rfl

end Outlets

/-- A poller whose queue is bound is supplied from the start of a run, and all packets are ahead
of it. -/
theorem Poller.IsBound.isSupplied {poller : Poller} {bindings observers : StreamMap Binding}
    {outlets : Outlets} {engine : SessionEngine} {graph : Graph} {sink : Option Unit}
    (bound : poller.IsBound bindings outlets)
    (same : ∀ stream, observers.find? stream = bindings.find? stream)
    (begins : engine.worker = some { graph, observers, sink }) :
    poller.IsSupplied graph 0 engine outlets ∧
      ∀ later, poller.ahead graph 0 later engine outlets =
        graph.packetsOn poller.stream 0 later := by
  refine ⟨⟨bound.stands, fun worker known => ?_⟩, fun later => ?_⟩
  · cases begins.symm.trans known
    exact ⟨rfl, fun stream => by rw [same]; exact bound.owns stream, rfl⟩
  · rw [Poller.ahead, Poller.unsent, ScriptedEngine.owed, begins, bound.empty]
    rfl

namespace GatedPoller

/-- A gate with these packets and no others. -/
def sealed (poller : GatedPoller) (presences payloads : List Packet) : Gate where
  presenceStream := poller.presence.stream
  payloadStream := poller.payload.stream
  presence := ⟨presences, false⟩
  payload := ⟨payloads, false⟩
  pending := poller.pending

/-- The gate of all packets that these frames bring. -/
def whole (poller : GatedPoller) (graph : Graph) (frames : List StampedFrame) : Gate :=
  sealed { poller with pending := none } (graph.packetsOn poller.presence.stream 0 frames)
    (graph.packetsOn poller.payload.stream 0 frames)

/-- The gate of all packets that were not taken yet, if these are the later frames. -/
def rest (poller : GatedPoller) (graph : Graph) (count : Nat) (later : List StampedFrame)
    (engine : SessionEngine) (outlets : Outlets) : Gate :=
  poller.sealed (poller.presence.ahead graph count later engine outlets)
    (poller.payload.ahead graph count later engine outlets)

/-- Both queues are supplied, and whatever frames follow, what was heard so far comes first of
all that there is to hear. -/
structure IsServed (poller : GatedPoller) (graph : Graph) (frames : List StampedFrame)
    (engine : SessionEngine) (outlets : Outlets)
    (heard : List (Except SessionError (PollResult Gated))) : Prop where
  apart : poller.presence.channel ≠ poller.payload.channel
  presence : poller.presence.IsSupplied graph frames.length engine outlets
  payload : poller.payload.IsSupplied graph frames.length engine outlets
  yields : ∀ later, (engine.worker = none → later = []) →
    (poller.whole graph (frames ++ later)).Yields heard
      (poller.rest graph frames.length later engine outlets)

variable {poller : GatedPoller} {graph : Graph} {frames : List StampedFrame}
  {engine : SessionEngine} {outlets : Outlets}
  {heard : List (Except SessionError (PollResult Gated))}

theorem IsServed.congr {after : Outlets}
    (served : poller.IsServed graph frames engine outlets heard)
    (presence : after.channels[poller.presence.channel]? =
      outlets.channels[poller.presence.channel]?)
    (payload : after.channels[poller.payload.channel]? =
      outlets.channels[poller.payload.channel]?) :
    poller.IsServed graph frames engine after heard where
  apart := served.apart
  presence := served.presence.congr presence
  payload := served.payload.congr payload
  yields later still := by
    rw [rest, Poller.ahead_congr presence, Poller.ahead_congr payload]
    exact served.yields later still

theorem IsServed.of_channels {after : Outlets}
    (served : poller.IsServed graph frames engine outlets heard)
    (same : after.channels = outlets.channels) :
    poller.IsServed graph frames engine after heard :=
  served.congr (congrArg (·[poller.presence.channel]?) same)
    (congrArg (·[poller.payload.channel]?) same)

theorem IsServed.withRun (served : poller.IsServed graph frames engine outlets heard)
    (run : Option Run) : poller.IsServed graph frames { engine with run } outlets heard :=
  ⟨served.apart, ⟨served.presence.stands, served.presence.worker⟩,
    ⟨served.payload.stands, served.payload.worker⟩, served.yields⟩

/-- What both queues have had and are to get is the same when the engine has gone on. -/
theorem IsServed.onward {after : SessionEngine × Outlets}
    (served : poller.IsServed graph frames engine outlets heard)
    (onward : ∀ poller : Poller, poller.IsSupplied graph frames.length engine outlets →
      poller.IsSupplied graph frames.length after.1 after.2 ∧
        ∀ later, poller.ahead graph frames.length later after.1 after.2 =
          poller.ahead graph frames.length later engine outlets)
    (idle : engine.worker = none → after.1.worker = none) :
    poller.IsServed graph frames after.1 after.2 heard := by
  obtain ⟨presence, presences⟩ := onward poller.presence served.presence
  obtain ⟨payload, payloads⟩ := onward poller.payload served.payload
  refine ⟨served.apart, presence, payload, fun later still => ?_⟩
  rw [rest, presences, payloads]
  exact served.yields later fun ended => still (idle ended)

theorem IsServed.advance (served : poller.IsServed graph frames engine outlets heard) :
    let worked := engine.advance SessionEngine.reaction outlets
    poller.IsServed graph frames worked.1 worked.2 heard :=
  served.onward (fun _ supplied => supplied.advance) fun idle => by
    simp only [ScriptedEngine.advance, idle]

theorem IsServed.accept (served : poller.IsServed graph frames engine outlets heard)
    (works : engine.worker.isSome = true) (run : Run) (input : StampedFrame) :
    poller.IsServed graph (frames ++ [input]) (engine.accept run input) outlets heard := by
  obtain ⟨worker, found⟩ := Option.isSome_iff_exists.mp works
  obtain ⟨presence, presences⟩ := served.presence.accept found run input
  obtain ⟨payload, payloads⟩ := served.payload.accept found run input
  have longer : (frames ++ [input]).length = frames.length + 1 := List.length_append
  refine ⟨served.apart, longer ▸ presence, longer ▸ payload, fun later _ => ?_⟩
  rw [rest, longer, presences, payloads, List.append_assoc, List.singleton_append]
  exact served.yields (input :: later) fun idle => nomatch found.symm.trans idle

/-- Both queues are written one after the other, and neither write reaches the other queue. -/
theorem queues_put (apart : poller.presence.channel ≠ poller.payload.channel)
    (presence : outlets.Stands poller.presence.channel)
    (payload : outlets.Stands poller.payload.channel) (gate : Gate) :
    let after := (poller.put gate outlets).2
    (after.Stands poller.presence.channel ∧
        after.queue poller.presence.channel = gate.presence.packets) ∧
      after.Stands poller.payload.channel ∧
        after.queue poller.payload.channel = gate.payload.packets := by
  obtain ⟨read, left⟩ := presence.setPackets poller.presence.channel gate.presence.packets
  obtain ⟨stands, unpaid⟩ := read.setPackets poller.payload.channel gate.payload.packets
  rw [if_pos rfl] at left
  rw [if_neg apart.symm, left] at unpaid
  obtain ⟨paid, same⟩ :=
    (payload.setPackets poller.presence.channel gate.presence.packets).1.setPackets
      poller.payload.channel gate.payload.packets
  rw [if_pos rfl] at same
  exact ⟨⟨stands, unpaid⟩, paid, same⟩

/-- The queues of a poller, put together again after its gate was read, are that gate. -/
theorem gate_put (apart : poller.presence.channel ≠ poller.payload.channel)
    (presence : outlets.Stands poller.presence.channel)
    (payload : outlets.Stands poller.payload.channel) {isOpen : ChannelId → Bool} {gate : Gate}
    (streams : gate.presenceStream = poller.presence.stream ∧
      gate.payloadStream = poller.payload.stream)
    (opened : gate.presence.isOpen = (poller.gate isOpen outlets).presence.isOpen ∧
      gate.payload.isOpen = (poller.gate isOpen outlets).payload.isOpen) :
    let after := poller.put gate outlets
    after.1.gate isOpen after.2 = gate := by
  intro after
  obtain ⟨⟨signalled, presences⟩, paid, payloads⟩ := queues_put apart presence payload gate
  have first : after.2.inbox isOpen poller.presence.channel = gate.presence := by
    refine (signalled.inbox_eq isOpen).trans ?_
    rw [presences]
    exact congrArg (Inbox.mk _)
      (opened.1.trans (congrArg Inbox.isOpen (presence.inbox_eq isOpen))).symm
  have second : after.2.inbox isOpen poller.payload.channel = gate.payload := by
    refine (paid.inbox_eq isOpen).trans ?_
    rw [payloads]
    exact congrArg (Inbox.mk _)
      (opened.2.trans (congrArg Inbox.isOpen (payload.inbox_eq isOpen))).symm
  have made : after.1.gate isOpen after.2 =
      ⟨poller.presence.stream, poller.payload.stream,
        after.2.inbox isOpen poller.presence.channel,
        after.2.inbox isOpen poller.payload.channel, gate.pending⟩ := rfl
  rw [made, first, second, ← streams.1, ← streams.2]

/-- Of a gate that is read on, only the later state counts. -/
theorem put_put (apart : poller.presence.channel ≠ poller.payload.channel) (first later : Gate) :
    (poller.put first outlets).1.put later (poller.put first outlets).2 =
      poller.put later outlets := by
  simp only [put, Outlets.setPackets]
  rw [List.modify_modify_ne _ _ _ apart, List.modify_modify_eq,
    List.modify_modify_ne _ _ _ apart.symm, List.modify_modify_eq]
  rfl

theorem rest_eq_completed (presence : outlets.Stands poller.presence.channel)
    (payload : outlets.Stands poller.payload.channel) (isOpen : ChannelId → Bool) (graph : Graph)
    (count : Nat) (later : List StampedFrame) (engine : SessionEngine) :
    poller.rest graph count later engine outlets =
      (poller.gate isOpen outlets).completed (poller.presence.unsent graph count later engine)
        (poller.payload.unsent graph count later engine) := by
  simp only [rest, sealed, gate, Gate.completed, presence.inbox_eq, payload.inbox_eq]
  rfl

theorem rest_put (apart : poller.presence.channel ≠ poller.payload.channel)
    (presence : outlets.Stands poller.presence.channel)
    (payload : outlets.Stands poller.payload.channel) {gate : Gate}
    (streams : gate.presenceStream = poller.presence.stream ∧
      gate.payloadStream = poller.payload.stream) (graph : Graph)
    (count : Nat) (later : List StampedFrame) (engine : SessionEngine) :
    let after := poller.put gate outlets
    after.1.rest graph count later engine after.2 =
      gate.completed (poller.presence.unsent graph count later engine)
        (poller.payload.unsent graph count later engine) := by
  obtain ⟨⟨_, presences⟩, _, payloads⟩ := queues_put apart presence payload gate
  rw [Gate.completed, streams.1, streams.2, ← presences, ← payloads]
  rfl

/-- While a worker is there, neither queue is closed; without one, nothing more comes. -/
theorem IsServed.mayGet (served : poller.IsServed graph frames engine outlets heard)
    {isOpen : ChannelId → Bool}
    (opened : engine.worker.isSome = true →
      isOpen poller.presence.channel = true ∧ isOpen poller.payload.channel = true)
    {later : List StampedFrame} (still : engine.worker = none → later = []) :
    (poller.gate isOpen outlets).MayGet
      (poller.presence.unsent graph frames.length later engine)
      (poller.payload.unsent graph frames.length later engine) := by
  have nothing (poller : Poller) (closed : engine.worker.isSome ≠ true) :
      poller.unsent graph frames.length later engine = [] := by
    have idle := Option.not_isSome_iff_eq_none.mp closed
    rw [still idle, Poller.unsent_of_idle idle]
  constructor
  · intro closed
    refine nothing _ fun works => ?_
    rw [gate, served.presence.stands.inbox_eq, (opened works).1] at closed
    contradiction
  · intro closed
    refine nothing _ fun works => ?_
    rw [gate, served.payload.stands.inbox_eq, (opened works).2] at closed
    contradiction

/-- A gate that was read is served on if its answers are the next ones that there are. -/
theorem IsServed.read (served : poller.IsServed graph frames engine outlets heard) {gate : Gate}
    {answers : List (Except SessionError (PollResult Gated))}
    (streams : gate.presenceStream = poller.presence.stream ∧
      gate.payloadStream = poller.payload.stream)
    (yields : ∀ later, (engine.worker = none → later = []) →
      (poller.whole graph (frames ++ later)).Yields (heard ++ answers)
        (gate.completed (poller.presence.unsent graph frames.length later engine)
          (poller.payload.unsent graph frames.length later engine))) :
    let after := poller.put gate outlets
    after.1.IsServed graph frames engine after.2 (heard ++ answers) := by
  intro after
  have presence := served.presence.stands
  have payload := served.payload.stands
  obtain ⟨⟨presenceStands, _⟩, payloadStands, _⟩ := queues_put served.apart presence payload gate
  refine ⟨served.apart, ⟨presenceStands, served.presence.worker⟩,
    ⟨payloadStands, served.payload.worker⟩, fun later still => ?_⟩
  rw [rest_put served.apart presence payload streams]
  exact yields later still

/-- A poll hears nothing, or what comes next. -/
theorem IsServed.poll (served : poller.IsServed graph frames engine outlets heard)
    {isOpen : ChannelId → Bool}
    (opened : engine.worker.isSome = true →
      isOpen poller.presence.channel = true ∧ isOpen poller.payload.channel = true) :
    let polled := poller.poll isOpen outlets
    polled.2.1.IsServed graph frames engine polled.2.2
      (heard ++ [polled.1].filter (!saysNothing ·)) := by
  intro polled
  let gate := poller.gate isOpen outlets
  refine served.read gate.streams_poll fun later still => ?_
  let presences := poller.presence.unsent graph frames.length later engine
  let payloads := poller.payload.unsent graph frames.length later engine
  have yields := served.yields later still
  rw [rest_eq_completed served.presence.stands served.payload.stands isOpen] at yields
  obtain ⟨_, ⟨empty, same⟩ | found⟩ := Gate.poll_completed (served.mayGet opened still)
  · have heardNothing : heard ++ [polled.1].filter (!saysNothing ·) = heard := by
      rw [show polled.1 = _ from empty]
      exact List.append_nil heard
    rw [heardNothing]
    exact yields.same same
  · have something := @Gate.saysNothing_poll (gate.completed presences payloads) rfl rfl
    rw [found] at something
    rw [List.filter_cons, show saysNothing polled.1 = _ from something]
    exact yields.more found

/-- Two pollers whose queues are bound are served from the start of a run. -/
theorem isServed_of_launch {bindings observers : StreamMap Binding} {sink : Option Unit}
    (pending : poller.pending = none)
    (apart : poller.presence.channel ≠ poller.payload.channel)
    (presence : poller.presence.IsBound bindings outlets)
    (payload : poller.payload.IsBound bindings outlets)
    (same : ∀ stream, observers.find? stream = bindings.find? stream)
    (begins : engine.worker = some { graph, observers, sink }) :
    poller.IsServed graph [] engine outlets [] := by
  obtain ⟨signalled, presences⟩ := presence.isSupplied same begins
  obtain ⟨paid, payloads⟩ := payload.isSupplied same begins
  refine ⟨apart, signalled, paid, fun later _ => ?_⟩
  have whole : poller.rest graph 0 later engine outlets = poller.whole graph ([] ++ later) := by
    rw [rest, presences, payloads, sealed, pending]
    rfl
  rw [List.length_nil, whole]
  exact .refl _

end GatedPoller

theorem SessionEngine.holds_of_owns {poller : Poller} {engine : SessionEngine}
    {worker : Worker Binding Unit} (found : engine.worker = some worker)
    (owns : poller.Owns worker.observers) : engine.holds poller.channel = true := by
  obtain ⟨entry, known, same⟩ := Option.map_eq_some_iff.mp ((owns poller.stream).mpr rfl)
  refine List.any_eq_true.mpr ⟨entry, ?_, by rw [same]; exact beq_self_eq_true _⟩
  rw [ScriptedEngine.heldObservers, found]
  exact List.mem_append_right _ (List.mem_of_find?_eq_some known)

/-- A queue that is supplied stays open as long as there is a worker. -/
theorem Poller.IsSupplied.isOpen {poller : Poller} {graph : Graph} {count : Nat}
    {session : Session SessionEngine} {outlets : Outlets}
    (supplied : poller.IsSupplied graph count session.engine outlets)
    (works : session.engine.worker.isSome = true) : session.isOpen poller.channel = true := by
  obtain ⟨worker, found⟩ := Option.isSome_iff_exists.mp works
  have held := SessionEngine.holds_of_owns found (supplied.worker worker found).2.1
  exact Bool.or_eq_true_iff.mpr (.inr held)

theorem OutputPoller.saysNothing_answerOf (poller : OutputPoller)
    (answer : Except SessionError (PollResult Gated)) :
    saysNothing (poller.answerOf answer) = saysNothing answer := by
  rcases answer with error | (gated | _ | _)
  · rfl
  · rw [answerOf]
    cases poller.observe gated <;> rfl
  · rfl
  · rfl

theorem OutputPoller.poll_gated (task : Task) (source : GatedPoller) (isOpen : ChannelId → Bool)
    (outlets : Outlets) :
    let polled := source.poll isOpen outlets
    OutputPoller.poll isOpen ⟨task, .gated source⟩ outlets =
      (OutputPoller.answerOf ⟨task, .gated source⟩ polled.1, ⟨task, .gated polled.2.1⟩,
        polled.2.2) := by
  intro polled
  simp only [OutputPoller.poll, pollSource]
  rcases (source.poll isOpen outlets).1 with error | (gated | _ | _) <;> rfl

namespace Service

/-- What holds of a gated poller and its session, however they are used. -/
structure Serves (graph : Graph) (task : Task) (gated : GatedPoller) (service : Service) :
    Prop where
  works : service.session.state = .running → service.session.engine.worker.isSome = true
  cleared : service.session.bindings.bindings = .empty
  bounds : Session.Bounds service.session.lifecycle.lastTimestamp
    (service.frames.map (·.timestamp))
  ordered : service.frames.Pairwise fun earlier later => earlier.timestamp < later.timestamp
  served : ∃ pending heard,
    service.poller = ⟨task, .gated { gated with pending }⟩ ∧
      service.heard = heard.map (OutputPoller.answerOf ⟨task, .gated gated⟩) ∧
      GatedPoller.IsServed { gated with pending } graph service.frames service.session.engine
        service.session.outlets heard

variable {graph : Graph} {task : Task} {gated : GatedPoller} {service : Service}

theorem Serves.settle (serves : service.Serves graph task gated)
    (coupled : service.session.settle.Coupled) :
    Serves graph task gated { service with session := service.session.settle } := by
  obtain ⟨works, cleared, bounds, ordered, pending, heard, poller, answers, served⟩ := serves
  exact ⟨fun running => Session.works_settle coupled running (works running), cleared, bounds,
    ordered, pending, heard, poller, answers, served.advance⟩

theorem lasting_isServed (poller : GatedPoller) (graph : Graph)
    (heard : List (Except SessionError (PollResult Gated))) :
    Lasting fun frames engine outlets => poller.IsServed graph frames engine outlets heard where
  counted served _ := served.of_channels rfl
  withRun served := served.withRun
  accept served works := served.accept works
  advance served := served.advance

theorem Serves.feed (serves : service.Serves graph task gated)
    (coupled : service.session.Coupled) {input : StampedFrame}
    (next : (service.use (.feed input)).session.Coupled) :
    (service.use (.feed input)).Serves graph task gated := by
  obtain ⟨works, cleared, bounds, ordered, pending, heard, poller, answers, served⟩ := serves
  have still := Works.use works coupled next
  have served := (lasting_isServed _ graph heard).feed coupled works served input
  rcases use_feed coupled input with ⟨error, same⟩ | ⟨running, later, run, same⟩
  · rw [same] at still served ⊢
    exact ⟨still, cleared, bounds, ordered, pending, heard, poller, answers, served⟩
  · rw [same] at still served ⊢
    refine ⟨still, cleared, ?_, ?_, pending, heard, poller, answers, served⟩
    · rw [List.map_append]
      exact bounds.accept later
    · refine List.pairwise_append.mpr ⟨ordered, List.pairwise_singleton .., ?_⟩
      intro earlier known other new
      rw [List.mem_singleton.mp new]
      exact (bounds.precedes_iff input.timestamp).mp later _ (List.mem_map_of_mem known)

theorem Serves.poll (serves : service.Serves graph task gated)
    (next : (service.use .poll).session.Coupled) :
    (service.use .poll).Serves graph task gated := by
  obtain ⟨works, cleared, bounds, ordered, pending, heard, poller, answers, served⟩ := serves
  let source : GatedPoller := { gated with pending }
  let polled := source.poll service.session.isOpen service.session.outlets
  let asked : Service := { service with
    session := { service.session with outlets := polled.2.2 }
    poller := ⟨task, .gated polled.2.1⟩
    answers := service.answers ++ [OutputPoller.answerOf ⟨task, .gated gated⟩ polled.1] }
  have same : service.use .poll = { asked with session := asked.session.settle } := by
    simp only [Service.use, Session.poll, poller, OutputPoller.poll_gated]
    rfl
  have serves : asked.Serves graph task gated := by
    refine ⟨works, cleared, bounds, ordered, polled.2.1.pending, _, rfl, ?_,
      served.poll fun works =>
        ⟨served.presence.isOpen works, served.payload.isOpen works⟩⟩
    rw [Service.heard, List.filter_append, List.map_append, ← answers, Service.heard]
    simp only [List.filter_cons, OutputPoller.saysNothing_answerOf, List.filter_nil]
    cases saysNothing polled.1 <;> rfl
  rw [same] at next ⊢
  exact serves.settle next

theorem Serves.stop (serves : service.Serves graph task gated)
    (coupled : service.session.Coupled) : (service.use .stop).Serves graph task gated := by
  obtain ⟨works, cleared, bounds, ordered, pending, heard, poller, answers, served⟩ := serves
  have served := (lasting_isServed _ graph heard).stop coupled served
  refine ⟨fun running => absurd running (use_stop coupled).1, ?_, ?_, ordered, pending,
    heard, poller, answers, served⟩
  all_goals
    simp only [use, Session.stop]
    split <;> first | exact cleared | exact bounds | rfl

theorem Serves.use (serves : service.Serves graph task gated)
    (coupled : service.session.Coupled) {use : Use} (next : (service.use use).session.Coupled) :
    (service.use use).Serves graph task gated := by
  cases use with
  | feed input => exact serves.feed coupled next
  | poll => exact serves.poll next
  | stop => exact serves.stop coupled

theorem Serves.after (serves : service.Serves graph task gated)
    (coupled : service.session.Coupled) (settled : service.session.Settled) (uses : List Use) :
    (service.after uses).session.Coupled ∧ (service.after uses).session.Settled ∧
      (service.after uses).Serves graph task gated :=
  after_of_use coupled settled serves (fun serves coupled _ next => serves.use coupled next) uses

end Service

namespace Session

variable {session bound begun : Session SessionEngine} {port : Port} {presence : String}
  {poller : OutputPoller}

theorem exists_of_bindPoller (gates : port.presence = some presence)
    (binds : session.bindPoller port = (.ok poller, bound)) :
    ∃ gated bindings outlets,
      session.bindings.bindGated port.output presence session.outlets =
        .ok (gated, bindings, outlets) ∧
      poller = ⟨session.task, .gated gated⟩ ∧ bound = { session with bindings, outlets } := by
  simp only [bindPoller, gates] at binds
  split at binds
  · simp at binds
  · split at binds
    · simp at binds
    · rename_i gated bindings outlets made
      cases binds
      exact ⟨gated, bindings, outlets, made, rfl, rfl⟩

end Session

end FrameFlow
