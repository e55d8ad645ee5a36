import FrameFlow.Proofs.Session.Launching
import FrameFlow.Proofs.Session.Pairs
import FrameFlow.Proofs.Session.Reading

/-!
A worker and a consumer at the two queues of a gated poller. The worker waits for room in a
full queue, the consumer for a packet in an empty one. If payloads go with presences, they
never both wait.
-/

namespace FrameFlow

/-- What is left of the frame in work. -/
def ScriptedEngine.current {η φ : Type} (engine : ScriptedEngine η φ) : List Emission :=
  match engine.worker with
  | some worker => worker.current
  | none => []

theorem ScriptedEngine.current_eq {η φ : Type} {engine : ScriptedEngine η φ}
    {worker : Worker η φ} (found : engine.worker = some worker) :
    engine.current = worker.current := by
  rw [current, found]

/-- An engine in a run and a consumer of one of its gated pollers, with the frames that were
accepted and what the consumer heard. -/
structure Pipeline where
  engine : SessionEngine
  outlets : Outlets
  poller : GatedPoller
  frames : List StampedFrame := []
  answers : List (Except SessionError (PollResult Gated)) := []

namespace Pipeline

def gate (pipeline : Pipeline) (isOpen : ChannelId → Bool) : Gate :=
  pipeline.poller.gate isOpen pipeline.outlets

/-- The consumer makes a move, and hears what it answers. -/
def consume (pipeline : Pipeline) (isOpen : ChannelId → Bool) : Pipeline :=
  let read := (pipeline.gate isOpen).read
  let after := pipeline.poller.put read.2 pipeline.outlets
  { pipeline with
    poller := after.1
    outlets := after.2
    answers := pipeline.answers ++ read.1.toList }

/-- The consumer makes a whole poll, and hears what it answers. -/
def poll (pipeline : Pipeline) (isOpen : ChannelId → Bool) : Pipeline :=
  let polled := pipeline.poller.poll isOpen pipeline.outlets
  { pipeline with
    poller := polled.2.1
    outlets := polled.2.2
    answers := pipeline.answers ++ [polled.1] }

/-- What comes from outside: frames, and the end of the input. -/
inductive CallerStep : Pipeline → Pipeline → Prop
  | feeds {pipeline stream input engine} :
      pipeline.engine.addPacket stream input = .ok engine →
      CallerStep pipeline { pipeline with engine, frames := pipeline.frames ++ [input] }
  | closes {pipeline stream engine} :
      pipeline.engine.closeInput stream = .ok engine →
      CallerStep pipeline { pipeline with engine }

/-- A step of the worker, or a move of a consumer who polls over and over and always waits.
The worker has the sending ends; when it is gone they go too, one before the other. -/
inductive RunStep : Pipeline → Pipeline → Prop
  | works {pipeline after} :
      ScriptedEngine.WorkerStep SessionEngine.reaction (pipeline.engine, pipeline.outlets)
        after →
      RunStep pipeline { pipeline with engine := after.1, outlets := after.2 }
  | consumes {pipeline isOpen} :
      (pipeline.engine.worker.isSome = true →
        isOpen pipeline.poller.presence.channel = true ∧
          isOpen pipeline.poller.payload.channel = true) →
      ¬ (pipeline.gate isOpen).IsBare →
      RunStep pipeline (pipeline.consume isOpen)

def Step (pipeline after : Pipeline) : Prop :=
  CallerStep pipeline after ∨ RunStep pipeline after

def Reaches : Pipeline → Pipeline → Prop := Relation.ReflTransGen Step

/-- Each of the two queues has room for this many packets. -/
def Fits (capacity : Nat) (pipeline : Pipeline) : Prop :=
  (pipeline.outlets.queue pipeline.poller.presence.channel).length ≤ max 1 capacity ∧
    (pipeline.outlets.queue pipeline.poller.payload.channel).length ≤ max 1 capacity

/-- The true presences on their way or taken, whose payload was not taken yet, are as many as
the payloads on their way. This relates the place of the worker in its frame to the place of
the consumer in its poll. -/
def Balanced (pipeline : Pipeline) : Prop :=
  let presence := pipeline.poller.presence
  let payload := pipeline.poller.payload
  pipeline.poller.pending.toList.length +
        (pipeline.outlets.queue presence.channel).countP Packet.signals +
      (pipeline.engine.current.flatMap (Emission.on presence.stream)).countP Packet.signals =
    (pipeline.outlets.queue payload.channel).length +
      (pipeline.engine.current.flatMap (Emission.on payload.stream)).length

structure Sound (graph : Graph) (capacity : Nat) (pipeline : Pipeline) : Prop where
  served : pipeline.poller.IsServed graph pipeline.frames pipeline.engine pipeline.outlets
    pipeline.answers
  opened : pipeline.engine.isInputOpen = true → pipeline.engine.worker.isSome = true
  alone : ∀ worker, pipeline.engine.worker = some worker →
    ∀ stream channel, worker.observers.find? stream = some (.poller channel) →
      channel = pipeline.poller.presence.channel ∨ channel = pipeline.poller.payload.channel
  inFrame : ∃ index input, pipeline.engine.current <:+ graph.emissions index input
  sized : pipeline.outlets.HasCapacity (some capacity)
  fits : pipeline.Fits capacity
  balanced : pipeline.Balanced

variable {graph : Graph} {capacity : Nat} {pipeline after : Pipeline}

theorem queues_of_isBare {isOpen : ChannelId → Bool} (bare : (pipeline.gate isOpen).IsBare)
    (presence : pipeline.outlets.Stands pipeline.poller.presence.channel)
    (payload : pipeline.outlets.Stands pipeline.poller.payload.channel) :
    match pipeline.poller.pending with
    | none => pipeline.outlets.queue pipeline.poller.presence.channel = []
    | some _ => pipeline.outlets.queue pipeline.poller.payload.channel = [] := by
  cases due : pipeline.poller.pending with
  | none =>
      have empty : pipeline.outlets.inbox isOpen pipeline.poller.presence.channel =
          ⟨[], true⟩ := by
        simpa only [Gate.IsBare, gate, GatedPoller.gate, due] using bare
      rw [presence.inbox_eq] at empty
      exact congrArg Inbox.packets empty
  | some timestamp =>
      have empty : pipeline.outlets.inbox isOpen pipeline.poller.payload.channel =
          ⟨[], true⟩ := by
        simpa only [Gate.IsBare, gate, GatedPoller.gate, due] using bare
      rw [payload.inbox_eq] at empty
      exact congrArg Inbox.packets empty

theorem length_on_suffix_le (wellFormed : graph.WellFormed) {current : List Emission}
    {index : Nat} {input : StampedFrame} (rest : current <:+ graph.emissions index input)
    (stream : String) : (current.flatMap (Emission.on stream)).length ≤ 1 := by
  have most := Emission.length_on_le (wellFormed.nodup_streams index input) stream
  obtain ⟨before, same⟩ := rest
  rw [← same, List.flatMap_append, List.length_append] at most
  omega

/-- The worker never waits for room in one queue while the consumer waits at the other. If
the worker is held up by a payload, the consumer would have a true presence to take; if it is
held up by a presence, the payload that the consumer waits for is not on its way yet, and so
belongs to that presence. -/
theorem Sound.not_isBare (sound : pipeline.Sound graph capacity) (wellFormed : graph.WellFormed)
    (pairs : graph.Pairs pipeline.poller.presence.stream pipeline.poller.payload.stream)
    {worker : Worker Binding Unit} (found : pipeline.engine.worker = some worker)
    (held : SessionEngine.HoldsUp worker pipeline.outlets) (isOpen : ChannelId → Bool) :
    ¬ (pipeline.gate isOpen).IsBare := by
  intro bare
  obtain ⟨stream, packet, rest, channel, queue, current, bound, present, attached, full⟩ := held
  obtain ⟨index, input, work⟩ := sound.inFrame
  have balanced := sound.balanced
  have empty := queues_of_isBare bare sound.served.presence.stands sound.served.payload.stands
  have waiting : 1 ≤ (pipeline.outlets.queue channel).length := by
    have room : queue.capacity = some (max 1 capacity) :=
      sound.sized queue (List.mem_of_getElem? present)
    rw [Channel.isFull, room, decide_eq_true_eq] at full
    rw [Outlets.queue_of_getElem? present]
    omega
  have left : pipeline.engine.current = .packet stream packet :: rest :=
    (ScriptedEngine.current_eq found).trans current
  have most := length_on_suffix_le wellFormed work
  have own : pipeline.engine.current.flatMap (Emission.on stream) = [packet] := by
    have one := most stream
    rw [left, List.flatMap_cons, Emission.on, if_pos rfl, List.singleton_append,
      List.length_cons] at one
    rw [left, List.flatMap_cons, Emission.on, if_pos rfl, List.singleton_append,
      List.eq_nil_of_length_eq_zero (by omega : (rest.flatMap (Emission.on stream)).length = 0)]
  unfold Balanced at balanced
  rcases sound.alone worker found stream channel bound with rfl | rfl
  · obtain rfl := ((sound.served.presence.worker worker found).2.1 stream).mp bound
    cases due : pipeline.poller.pending with
    | none =>
        simp only [due] at empty
        simp [empty] at waiting
    | some timestamp =>
        simp only [due, Option.toList_some, List.length_singleton] at empty balanced
        rw [empty, own, List.length_nil] at balanced
        have payloads := most pipeline.poller.payload.stream
        have absent : packet.signals = false := by
          cases said : packet.signals with
          | false => rfl
          | true =>
              rw [List.countP_cons_of_pos said] at balanced
              omega
        -- A payload is still to come in this frame, so its presence is a true one.
        have pays : graph.packetsOn pipeline.poller.payload.stream index [input] ≠ [] := by
          obtain ⟨before, same⟩ := work
          intro none
          rw [Graph.packetsOn_singleton, ← same, List.flatMap_append] at none
          rw [(List.append_eq_nil_iff.mp none).2, List.length_nil] at balanced
          omega
        have member : packet ∈ graph.packetsOn pipeline.poller.presence.stream index [input] :=
          Graph.mem_packetsOn_singleton.mpr (work.subset (left ▸ List.mem_cons_self ..))
        rcases pairs.frame_cases wellFormed index input with ⟨unpaid, _⟩ | ⟨_, _, one⟩
        · exact pays unpaid
        · rw [one, List.mem_singleton] at member
          subst member
          contradiction
  · obtain rfl := ((sound.served.payload.worker worker found).2.1 stream).mp bound
    cases due : pipeline.poller.pending with
    | none =>
        simp only [due, Option.toList_none, List.length_nil] at empty balanced
        rw [empty, own, List.countP_nil, List.length_singleton] at balanced
        have signals := Nat.le_trans (List.countP_le_length (p := Packet.signals))
          (most pipeline.poller.presence.stream)
        omega
    | some timestamp =>
        simp only [due] at empty
        simp [empty] at waiting

/-- A queue takes a packet only if it has room. -/
theorem fits_of_emit {poller : Poller} {observers : StreamMap Binding} {sink : Option Unit}
    {outlets after : Outlets} {emission : Emission} (owns : poller.Owns observers)
    (stands : outlets.Stands poller.channel) (sized : outlets.HasCapacity (some capacity))
    (emitted : SessionEngine.reaction.emit observers sink emission outlets = some after)
    (fits : (outlets.queue poller.channel).length ≤ max 1 capacity) :
    (after.queue poller.channel).length ≤ max 1 capacity := by
  obtain ⟨_, brought⟩ := (owns.brings sink).emit stands emitted
  rw [brought, List.length_append]
  cases arrived : emission.on poller.stream with
  | nil => exact fits
  | cons packet others =>
      have same := Emission.mem_on.mp (arrived ▸ List.mem_cons_self .. : packet ∈ _)
      subst same
      obtain ⟨queue, found, attached⟩ := stands
      have bound := (owns poller.stream).mpr rfl
      have room : queue.isFull = false := by
        cases full : queue.isFull with
        | false => rfl
        | true =>
            have waits : SessionEngine.reaction.deliver poller.stream (.poller poller.channel)
                packet outlets = none :=
              Outlets.deliver_eq_none_iff.mpr ⟨_, queue, rfl, found, attached, full⟩
            simp [Reaction.emit, bound, waits] at emitted
      have capacity_eq : queue.capacity = some (max 1 capacity) :=
        sized queue (List.mem_of_getElem? found)
      rw [Channel.isFull, capacity_eq, decide_eq_false_iff_not,
        ← Outlets.queue_of_getElem? found] at room
      rw [Emission.on, if_pos rfl, List.cons.injEq] at arrived
      rw [← arrived.2, List.length_singleton]
      omega

/-- An engine that takes a frame does not begin it yet. -/
theorem Sound.accept (sound : pipeline.Sound graph capacity)
    (works : pipeline.engine.worker.isSome = true) (run : Run) (input : StampedFrame) :
    Sound graph capacity { pipeline with
      engine := pipeline.engine.accept run input
      frames := pipeline.frames ++ [input] } := by
  obtain ⟨worker, left⟩ := Option.isSome_iff_exists.mp works
  have given : (pipeline.engine.accept run input).worker = some (worker.enqueue input) := by
    rw [ScriptedEngine.accept, left]
    rfl
  have current : (pipeline.engine.accept run input).current = pipeline.engine.current := by
    rw [ScriptedEngine.current, given, ScriptedEngine.current, left]
    rfl
  refine ⟨sound.served.accept works run input, fun _ => by rw [given]; rfl, ?_, ?_,
    sound.sized, sound.fits, ?_⟩
  · intro other known
    cases given.symm.trans known
    exact sound.alone worker left
  · rw [current]
    exact sound.inFrame
  · unfold Balanced
    rw [current]
    exact sound.balanced

theorem Sound.withRun (sound : pipeline.Sound graph capacity) (run : Option Run)
    (opened : ScriptedEngine.isInputOpen { pipeline.engine with run } = true →
      pipeline.engine.worker.isSome = true) :
    Sound graph capacity { pipeline with engine := { pipeline.engine with run } } :=
  ⟨sound.served.withRun run, opened, sound.alone, sound.inFrame, sound.sized, sound.fits,
    sound.balanced⟩

/-- What is done to the queues of others makes no difference. -/
theorem Sound.withOutlets (sound : pipeline.Sound graph capacity) {outlets : Outlets}
    (presence : outlets.channels[pipeline.poller.presence.channel]? =
      pipeline.outlets.channels[pipeline.poller.presence.channel]?)
    (payload : outlets.channels[pipeline.poller.payload.channel]? =
      pipeline.outlets.channels[pipeline.poller.payload.channel]?)
    (sized : outlets.HasCapacity (some capacity)) :
    Sound graph capacity { pipeline with outlets } := by
  refine ⟨sound.served.congr presence payload, sound.opened, sound.alone, sound.inFrame, sized,
    ?_, ?_⟩
  · rw [Fits, Outlets.queue_congr presence, Outlets.queue_congr payload]
    exact sound.fits
  · rw [Balanced, Outlets.queue_congr presence, Outlets.queue_congr payload]
    exact sound.balanced

theorem Sound.called (sound : pipeline.Sound graph capacity)
    (step : CallerStep pipeline after) : after.Sound graph capacity := by
  cases step with
  | @feeds stream input engine added =>
      obtain ⟨run, found, opened, _, rfl⟩ := ScriptedEngine.addPacket_eq_ok_iff.mp added
      obtain ⟨_, _, _, running⟩ := ScriptedEngine.runOn_eq_ok_iff.mp found
      have works := sound.opened (by simp only [ScriptedEngine.isInputOpen, running, opened])
      exact sound.accept works run input
  | @closes stream engine closed =>
      obtain ⟨run, _, rfl⟩ := ScriptedEngine.closeInput_eq_ok_iff.mp closed
      exact sound.withRun _ fun opened => absurd opened Bool.false_ne_true

theorem Sound.worked (sound : pipeline.Sound graph capacity) (wellFormed : graph.WellFormed)
    (pairs : graph.Pairs pipeline.poller.presence.stream pipeline.poller.payload.stream)
    {next : SessionEngine × Outlets}
    (step : ScriptedEngine.WorkerStep SessionEngine.reaction (pipeline.engine, pipeline.outlets)
      next) :
    Sound graph capacity { pipeline with engine := next.1, outlets := next.2 } := by
  obtain ⟨worker, left⟩ := step.exists_worker
  have found : pipeline.engine.worker = some worker := left
  have served : pipeline.poller.IsServed graph pipeline.frames next.1 next.2 pipeline.answers := by
    refine sound.served.onward (fun poller supplied => ?_) fun idle => ?_
    · have owns := (supplied.worker worker found).2.1
      exact supplied.onward found (step.brings found (owns.brings worker.sink) supplied.stands)
    · rw [found] at idle
      contradiction
  obtain ⟨script, presenceOwns, _⟩ := sound.served.presence.worker worker found
  have payloadOwns := (sound.served.payload.worker worker found).2.1
  have balanced := sound.balanced
  rw [Balanced, ScriptedEngine.current_eq found] at balanced
  cases step with
  | @begins _ _ _ input rest known rested waiting =>
      cases found.symm.trans known
      refine ⟨served, fun _ => rfl, ?_, ⟨worker.index, input, ?_⟩, sound.sized, sound.fits, ?_⟩
      · rintro _ ⟨⟩
        exact sound.alone worker found
      · rw [← script]
        exact List.suffix_rfl
      · have frame := pairs.countP_signals wellFormed worker.index [input]
        rw [Graph.packetsOn_singleton, Graph.packetsOn_singleton, ← script] at frame
        simp only [rested, List.flatMap_nil, List.countP_nil, List.length_nil] at balanced
        simp only [Balanced, ScriptedEngine.current, Worker.begin]
        omega
  | @emits _ _ _ emission rest middle known current emitted =>
      cases found.symm.trans known
      obtain ⟨_, presences⟩ := (presenceOwns.brings worker.sink).emit
        sound.served.presence.stands emitted
      obtain ⟨_, payloads⟩ := (payloadOwns.brings worker.sink).emit
        sound.served.payload.stands emitted
      have sized : middle.HasCapacity (some capacity) :=
        sound.sized.of_fittings ((SessionEngine.reaction_keeps _).emit rfl emitted)
      refine ⟨served, fun _ => rfl, ?_, ?_, sized, ⟨?_, ?_⟩, ?_⟩
      · rintro _ ⟨⟩
        exact sound.alone worker found
      · obtain ⟨index, input, work⟩ := sound.inFrame
        refine ⟨index, input, List.IsSuffix.trans ?_ work⟩
        rw [ScriptedEngine.current_eq found, current]
        exact List.suffix_cons ..
      · exact fits_of_emit presenceOwns sound.served.presence.stands sound.sized emitted
          sound.fits.1
      · exact fits_of_emit payloadOwns sound.served.payload.stands sound.sized emitted
          sound.fits.2
      · simp only [current, List.flatMap_cons, List.countP_append, List.length_append]
          at balanced
        simp only [Balanced, ScriptedEngine.current, presences, payloads, List.countP_append,
          List.length_append]
        omega
  | @ends _ _ _ known idled closed =>
      cases found.symm.trans known
      simp only [Worker.isIdle, Bool.and_eq_true, List.isEmpty_iff] at idled
      obtain ⟨index, input, _⟩ := sound.inFrame
      refine ⟨served, fun opened => ?_, fun _ known => absurd known.symm (Option.some_ne_none _),
        ⟨index, input, List.nil_suffix⟩, sound.sized, sound.fits, ?_⟩
      · exact absurd (closed.symm.trans opened) Bool.false_ne_true
      · rw [idled.1] at balanced
        exact balanced

/-- A true presence that waits for its payload has it in the queue as soon as the consumer
moves on. -/
theorem Sound.paid (sound : pipeline.Sound graph capacity) {isOpen : ChannelId → Bool}
    (opened : pipeline.engine.worker.isSome = true →
      isOpen pipeline.poller.presence.channel = true ∧
        isOpen pipeline.poller.payload.channel = true)
    (bare : ¬ (pipeline.gate isOpen).IsBare) (due : pipeline.poller.pending.isSome = true) :
    pipeline.outlets.queue pipeline.poller.payload.channel ≠ [] := by
  intro empty
  obtain ⟨timestamp, pending⟩ := Option.isSome_iff_exists.mp due
  have read : (pipeline.gate isOpen).payload = ⟨[], isOpen pipeline.poller.payload.channel⟩ := by
    rw [gate, GatedPoller.gate, sound.served.payload.stands.inbox_eq, empty]
  cases left : pipeline.engine.worker with
  | some worker =>
      refine bare ?_
      simp only [Gate.IsBare, gate, GatedPoller.gate, pending]
      exact read.trans (by rw [(opened (by rw [left]; rfl)).2])
  | none =>
      have balanced := sound.balanced
      rw [Balanced, pending, empty, ScriptedEngine.current, left] at balanced
      simp at balanced

/-- The consumer has heard that nothing follows. -/
def ended (pipeline : Pipeline) : Bool :=
  pipeline.answers.any fun
    | .ok .closed => true
    | _ => false

/-- A move of the consumer takes true presences and payloads in turn, and nothing only at the
end. -/
theorem Sound.consume_spec (sound : pipeline.Sound graph capacity) {isOpen : ChannelId → Bool}
    (opened : pipeline.engine.worker.isSome = true →
      isOpen pipeline.poller.presence.channel = true ∧
        isOpen pipeline.poller.payload.channel = true)
    (bare : ¬ (pipeline.gate isOpen).IsBare) :
    let after := pipeline.consume isOpen
    let presence := pipeline.poller.presence.channel
    let payload := pipeline.poller.payload.channel
    after.poller.pending.toList.length +
            (after.outlets.queue presence).countP Packet.signals +
          (pipeline.outlets.queue payload).length =
        pipeline.poller.pending.toList.length +
            (pipeline.outlets.queue presence).countP Packet.signals +
          (after.outlets.queue payload).length ∧
      (after.outlets.queue presence).length ≤ (pipeline.outlets.queue presence).length ∧
      (after.outlets.queue payload).length ≤ (pipeline.outlets.queue payload).length ∧
      ((after.outlets.queue presence).length + (after.outlets.queue payload).length <
          (pipeline.outlets.queue presence).length + (pipeline.outlets.queue payload).length ∨
        after.ended = true) := by
  intro after presence payload
  have signals := sound.served.presence.stands
  have pays := sound.served.payload.stands
  obtain ⟨⟨_, signalled⟩, _, paid⟩ :=
    GatedPoller.queues_put sound.served.apart signals pays (pipeline.gate isOpen).read.2
  have asked : (pipeline.gate isOpen).presence.packets = pipeline.outlets.queue presence := by
    rw [show (pipeline.gate isOpen).presence = _ from signals.inbox_eq isOpen]
  have due : (pipeline.gate isOpen).payload.packets = pipeline.outlets.queue payload := by
    rw [show (pipeline.gate isOpen).payload = _ from pays.inbox_eq isOpen]
  rw [show after.outlets.queue presence = _ from signalled,
    show after.outlets.queue payload = _ from paid, ← asked, ← due]
  obtain ⟨balance, fewer, less, moves⟩ := Gate.read_balance bare
    fun pending => due ▸ sound.paid opened bare pending
  refine ⟨balance, fewer, less, moves.imp_right fun closed => ?_⟩
  have answers : after.answers = pipeline.answers ++ [.ok .closed] := by
    simp only [after, consume, closed, Option.toList_some]
  rw [ended, answers, List.any_append]
  exact Bool.or_true _

theorem Balanced.moved (balanced : pipeline.Balanced) {pending : Option Timestamp}
    {outlets : Outlets} {answers : List (Except SessionError (PollResult Gated))}
    (same : pending.toList.length +
          (outlets.queue pipeline.poller.presence.channel).countP Packet.signals +
        (pipeline.outlets.queue pipeline.poller.payload.channel).length =
      pipeline.poller.pending.toList.length +
          (pipeline.outlets.queue pipeline.poller.presence.channel).countP Packet.signals +
        (outlets.queue pipeline.poller.payload.channel).length) :
    Balanced { pipeline with poller.pending := pending, outlets, answers } := by
  simp only [Balanced] at balanced ⊢
  omega

theorem Sound.consumed (sound : pipeline.Sound graph capacity) {isOpen : ChannelId → Bool}
    (opened : pipeline.engine.worker.isSome = true →
      isOpen pipeline.poller.presence.channel = true ∧
        isOpen pipeline.poller.payload.channel = true)
    (bare : ¬ (pipeline.gate isOpen).IsBare) :
    (pipeline.consume isOpen).Sound graph capacity := by
  have presence := sound.served.presence.stands
  have payload := sound.served.payload.stands
  let gate := pipeline.gate isOpen
  let put := pipeline.poller.put gate.read.2 pipeline.outlets
  have served : put.1.IsServed graph pipeline.frames pipeline.engine put.2
      (pipeline.answers ++ gate.read.1.toList) := by
    refine sound.served.read gate.streams_read fun later still => ?_
    have yields := sound.served.yields later still
    rw [GatedPoller.rest_eq_completed presence payload isOpen] at yields
    have completed := Gate.read_completed (sound.served.mayGet opened still) bare
    split at completed
    · rename_i answer after same
      rw [show gate.read = _ from same]
      exact yields.more completed
    · rename_i after same
      rw [show gate.read = _ from same, Option.toList_none, List.append_nil]
      exact yields.same completed
  obtain ⟨balance, fewer, less, _⟩ := sound.consume_spec opened bare
  have sized : put.2.HasCapacity (some capacity) :=
    sound.sized.eased ((Outlets.eases_setPackets ..).trans (Outlets.eases_setPackets ..))
  exact ⟨served, sound.opened, sound.alone, sound.inFrame, sized,
    ⟨Nat.le_trans fewer sound.fits.1, Nat.le_trans less sound.fits.2⟩,
    sound.balanced.moved balance⟩

theorem Sound.gate_consume (sound : pipeline.Sound graph capacity) (isOpen : ChannelId → Bool) :
    (pipeline.consume isOpen).gate isOpen = (pipeline.gate isOpen).read.2 :=
  GatedPoller.gate_put sound.served.apart sound.served.presence.stands sound.served.payload.stands
    (pipeline.gate isOpen).streams_read (pipeline.gate isOpen).isOpen_read

/-- A poll is a move of the consumer that answers, or one that does not and the next one. -/
theorem Sound.poll_eq (sound : pipeline.Sound graph capacity) (isOpen : ChannelId → Bool) :
    pipeline.poll isOpen =
      if (pipeline.gate isOpen).read.1.isSome then pipeline.consume isOpen
      else (pipeline.consume isOpen).consume isOpen := by
  rcases (pipeline.gate isOpen).poll_eq_read with answered | ⟨unanswered, answered⟩
  · rw [if_pos (by rw [answered]; rfl), consume, answered]
    rfl
  · have apart := sound.served.apart
    have second : ((pipeline.consume isOpen).gate isOpen).read = _ :=
      (congrArg Gate.read (sound.gate_consume isOpen)).trans answered
    rw [if_neg (by rw [unanswered]; exact Bool.false_ne_true), consume, second]
    simp only [consume, unanswered, GatedPoller.put_put apart, Option.toList_none,
      List.append_nil, Option.toList_some]
    rfl

theorem poll_of_isBare {isOpen : ChannelId → Bool} (bare : (pipeline.gate isOpen).IsBare) :
    pipeline.poller.poll isOpen pipeline.outlets =
      (.ok .empty, pipeline.poller, pipeline.outlets) := by
  have still : pipeline.poller.put (pipeline.poller.gate isOpen pipeline.outlets)
      pipeline.outlets = (pipeline.poller, pipeline.outlets) := by
    simp only [GatedPoller.put, GatedPoller.gate, Outlets.packets_inbox, Outlets.setPackets_queue]
  have answered : (pipeline.poller.gate isOpen pipeline.outlets).poll = _ :=
    Gate.poll_of_isBare bare
  rw [GatedPoller.poll, answered]
  exact congrArg (Prod.mk _) still

/-- A poll keeps a pipeline sound, whether it hears anything or not. -/
theorem Sound.polled (sound : pipeline.Sound graph capacity) {isOpen : ChannelId → Bool}
    (opened : pipeline.engine.worker.isSome = true →
      isOpen pipeline.poller.presence.channel = true ∧
        isOpen pipeline.poller.payload.channel = true) :
    let polled := pipeline.poller.poll isOpen pipeline.outlets
    Sound graph capacity { pipeline with
      poller := polled.2.1
      outlets := polled.2.2
      answers := pipeline.answers ++ [polled.1].filter (!saysNothing ·) } := by
  intro polled
  have whole := sound.poll_eq isOpen
  by_cases bare : (pipeline.gate isOpen).IsBare
  · have same : polled = _ := poll_of_isBare bare
    have unheard : [polled.1].filter (!saysNothing ·) = [] := by
      rw [same]
      rfl
    rw [unheard, same, List.append_nil]
    exact sound
  · have first := sound.consumed opened bare
    cases quiet : saysNothing polled.1 with
    | false =>
        have heard : [polled.1].filter (!saysNothing ·) = [polled.1] := by simp [quiet]
        rw [heard]
        change (pipeline.poll isOpen).Sound graph capacity
        rw [whole]
        split
        · exact first
        · rename_i unanswered
          refine first.consumed opened fun late => ?_
          rcases (pipeline.gate isOpen).poll_eq_read with answered | ⟨_, answered⟩
          · exact unanswered (by rw [answered]; rfl)
          · rw [sound.gate_consume] at late
            rw [Gate.read_of_isBare late] at answered
            have empty : polled.1 = .ok .empty :=
              (Option.some.inj (congrArg Prod.fst answered)).symm
            rw [saysNothing_iff.mpr empty] at quiet
            contradiction
    | true =>
        -- The presence was taken, and its payload is not there yet.
        have empty : polled.1 = .ok .empty := saysNothing_iff.mp quiet
        rcases (pipeline.gate isOpen).poll_eq_read with answered | ⟨unanswered, answered⟩
        · exact absurd (Gate.read_eq_empty_iff.mp
            ((congrArg Prod.fst answered).trans (congrArg some empty))) bare
        · have late : (pipeline.gate isOpen).read.2.IsBare := by
            rw [← Gate.read_eq_empty_iff, answered]
            exact congrArg some empty
          rw [Gate.read_of_isBare late] at answered
          have same : (pipeline.gate isOpen).poll.2 = (pipeline.gate isOpen).read.2 :=
            (congrArg Prod.snd answered).symm
          have read : polled.2 =
              pipeline.poller.put (pipeline.gate isOpen).read.2 pipeline.outlets :=
            congrArg (pipeline.poller.put · pipeline.outlets) same
          rw [List.filter_cons, quiet, read]
          rw [consume, unanswered] at first
          exact first

/-- So a poll that hears something is part of a run. -/
theorem Sound.reaches_poll (sound : pipeline.Sound graph capacity) {isOpen : ChannelId → Bool}
    (opened : pipeline.engine.worker.isSome = true →
      isOpen pipeline.poller.presence.channel = true ∧
        isOpen pipeline.poller.payload.channel = true)
    (heard : saysNothing (pipeline.poller.poll isOpen pipeline.outlets).1 = false) :
    Reaches pipeline (pipeline.poll isOpen) := by
  have something : (pipeline.gate isOpen).poll.1 ≠ .ok .empty := by
    intro nothing
    rw [show (pipeline.poller.poll isOpen pipeline.outlets).1 = _ from nothing] at heard
    exact absurd heard (by decide)
  have first : RunStep pipeline (pipeline.consume isOpen) :=
    .consumes opened fun bare => something (congrArg Prod.fst (Gate.poll_of_isBare bare))
  rw [sound.poll_eq]
  rcases (pipeline.gate isOpen).poll_eq_read with answered | ⟨unanswered, answered⟩
  · rw [if_pos (by rw [answered]; rfl)]
    exact .single (.inr first)
  · rw [if_neg (by rw [unanswered]; exact Bool.false_ne_true)]
    refine .tail (.single (.inr first)) (.inr (.consumes opened fun bare => something ?_))
    rw [sound.gate_consume, ← Gate.read_eq_empty_iff, answered] at bare
    exact Option.some.inj bare

theorem Step.pollers (step : Step pipeline after) :
    after.poller.presence = pipeline.poller.presence ∧
      after.poller.payload = pipeline.poller.payload := by
  rcases step with step | step <;> cases step <;> exact ⟨rfl, rfl⟩

theorem Reaches.pollers (reached : Reaches pipeline after) :
    after.poller.presence = pipeline.poller.presence ∧
      after.poller.payload = pipeline.poller.payload := by
  induction reached with
  | refl => exact ⟨rfl, rfl⟩
  | tail _ step ih => exact ⟨step.pollers.1.trans ih.1, step.pollers.2.trans ih.2⟩

theorem Sound.reaches (sound : pipeline.Sound graph capacity) (wellFormed : graph.WellFormed)
    (pairs : graph.Pairs pipeline.poller.presence.stream pipeline.poller.payload.stream)
    (reached : Reaches pipeline after) : after.Sound graph capacity := by
  induction reached with
  | refl => exact sound
  | @tail middle last reached step ih =>
      obtain ⟨presence, payload⟩ := Reaches.pollers reached
      rw [← presence, ← payload] at pairs
      rcases step with step | step
      · exact ih.called step
      · cases step with
        | works step => exact ih.worked wellFormed pairs step
        | consumes opened bare => exact ih.consumed opened bare

/-- The worker goes as far as it can. -/
theorem Sound.advance (sound : pipeline.Sound graph capacity) (wellFormed : graph.WellFormed)
    (pairs : graph.Pairs pipeline.poller.presence.stream pipeline.poller.payload.stream) :
    let worked := pipeline.engine.advance SessionEngine.reaction pipeline.outlets
    let after := { pipeline with engine := worked.1, outlets := worked.2 }
    Reaches pipeline after ∧ after.Sound graph capacity := by
  intro worked after
  let staged (state : SessionEngine × Outlets) : Pipeline :=
    { pipeline with engine := state.1, outlets := state.2 }
  have steps := ScriptedEngine.steps_advance SessionEngine.reaction pipeline.engine
    pipeline.outlets
  have works : Reaches pipeline after :=
    Relation.ReflTransGen.lift (p := Step) staged (fun _ _ step => .inr (.works step)) _ _ steps
  exact ⟨works, sound.reaches wellFormed pairs works⟩

end Pipeline

end FrameFlow
