import FrameFlow.Proofs.Session.Completion
import FrameFlow.Proofs.Session.Hearing
import FrameFlow.Proofs.Session.Seating

/-!
Output pollers while their session runs, with a presence stream or without one. All that a poller
can hear of some frames is told by the script, and what was heard comes first of that. Where
payloads go with presences, the engine never waits for a poller that waits itself.
-/

namespace FrameFlow

theorem Gate.closed_of_poll {gate : Gate} (closed : gate.poll.1 = .ok .closed) :
    gate.presence.isOpen = false ∨ gate.payload.isOpen = false := by
  obtain ⟨presenceStream, payloadStream, ⟨presences, signals⟩, ⟨payloads, pays⟩, pending⟩ := gate
  have unpaid (due : Timestamp) (presences : List Packet)
      (closed : (Gate.takePayload ⟨presenceStream, payloadStream, ⟨presences, signals⟩,
        ⟨payloads, pays⟩, none⟩ due).1 = .ok .closed) : pays = false := by
    cases payloads with
    | nil => cases pays <;> simp [takePayload, Inbox.take] at closed ⊢
    | cons packet rest =>
        simp only [takePayload, Inbox.take] at closed
        split at closed <;> cases closed
  rw [poll_eq] at closed
  cases pending with
  | some due => exact .inr (unpaid due presences closed)
  | none =>
      cases presences with
      | nil => cases signals <;> simp [Inbox.take] at closed ⊢
      | cons packet rest =>
          obtain ⟨timestamp, content⟩ := packet
          cases content with
          | presence isPresent =>
              cases isPresent with
              | true => exact .inr (unpaid timestamp rest closed)
              | false => cases closed
          | _ => cases closed

/-- A poll that hears nothing and takes nothing found nothing. -/
theorem Gate.isBare_of_poll {gate : Gate} (nothing : gate.poll.1 = .ok .empty)
    (untaken : gate.poll.2.presence.packets = gate.presence.packets) : gate.IsBare := by
  obtain ⟨presenceStream, payloadStream, ⟨presences, signals⟩, ⟨payloads, pays⟩, pending⟩ := gate
  rw [poll_eq] at nothing untaken
  cases pending with
  | some due =>
      cases payloads with
      | nil => cases pays <;> simp [takePayload, Inbox.take, IsBare] at nothing ⊢
      | cons packet rest =>
          simp only [takePayload, Inbox.take] at nothing
          split at nothing <;> cases nothing
  | none =>
      cases presences with
      | nil => cases signals <;> simp [Inbox.take, IsBare] at nothing ⊢
      | cons packet rest =>
          obtain ⟨timestamp, content⟩ := packet
          have taken (kept : rest = ⟨timestamp, content⟩ :: rest) : False :=
            List.cons_ne_self _ _ kept.symm
          cases content with
          | presence isPresent =>
              cases isPresent with
              | true =>
                  let read : Gate :=
                    ⟨presenceStream, payloadStream, ⟨rest, signals⟩, ⟨payloads, pays⟩, none⟩
                  have kept : (read.takePayload timestamp).2.presence = ⟨rest, signals⟩ :=
                    (read.frame_takePayload timestamp).1
                  exact (taken ((congrArg Inbox.packets kept).symm.trans untaken)).elim
              | false => cases nothing
          | _ => cases nothing

/-- A queue that is full has something in it. -/
theorem Outlets.queue_ne_nil_of_isFull {outlets : Outlets} {room : Option Nat}
    (sized : outlets.HasCapacity room) {channel : ChannelId} {queue : Channel}
    (found : outlets.channels[channel]? = some queue) (full : queue.isFull = true) :
    outlets.queue channel ≠ [] := by
  have capacity := sized queue (List.mem_of_getElem? found)
  intro empty
  rw [queue_of_getElem? found] at empty
  rw [Channel.isFull, capacity, empty] at full
  cases room with
  | none => contradiction
  | some number =>
      have least : max 1 number ≤ 0 := of_decide_eq_true full
      omega

namespace Outlets

variable {outlets : Outlets} {channel other : ChannelId}

theorem getElem?_setPackets_of_ne (apart : other ≠ channel) {packets : List Packet} :
    (outlets.setPackets other packets).channels[channel]? = outlets.channels[channel]? := by
  simp [setPackets, apart]

theorem getElem?_detach_of_ne (apart : other ≠ channel) :
    (outlets.detach other).channels[channel]? = outlets.channels[channel]? := by
  simp [detach, apart]

theorem not_stands_detach (outlets : Outlets) (channel : ChannelId) :
    ¬ (outlets.detach channel).Stands channel := by
  rintro ⟨queue, found, attached⟩
  simp only [detach, List.getElem?_modify_eq] at found
  obtain ⟨before, _, rfl⟩ := Option.map_eq_some_iff.mp found
  contradiction

theorem stands_of_detach (stands : (outlets.detach other).Stands channel) :
    outlets.Stands channel := by
  by_cases same : other = channel
  · exact absurd (same ▸ stands) (outlets.not_stands_detach channel)
  · exact stands.congr (getElem?_detach_of_ne same).symm

theorem Stands.of_fittings {after : Outlets} (stands : after.Stands channel)
    (same : after.fittings = outlets.fittings) : outlets.Stands channel := by
  obtain ⟨queue, found, attached⟩ := stands
  have fits : outlets.fittings[channel]? = some queue.fitting := by
    rw [← same, fittings, List.getElem?_map, found]
    rfl
  rw [fittings, List.getElem?_map] at fits
  obtain ⟨before, known, alike⟩ := Option.map_eq_some_iff.mp fits
  exact ⟨before, known, (congrArg Prod.snd alike).trans attached⟩

end Outlets

namespace OutputPoller

variable {poller : OutputPoller} {graph : Graph} {room : Option Nat}
  {frames : List StampedFrame} {engine : SessionEngine} {outlets after : Outlets}
  {heard : List (Except SessionError (PollResult Observation))}

/-- The queues that a poller reads. -/
def queues (poller : OutputPoller) : List Poller := (Ticket.outputs poller).pollers

/-- The presence stream of a gated poller goes with its payloads. -/
def IsPaired (poller : OutputPoller) (graph : Graph) : Prop :=
  match poller.source with
  | .plain _ => True
  | .gated source => graph.Pairs source.presence.stream source.payload.stream

/-- All that a poller hears of some frames before the end. -/
def answers (poller : OutputPoller) (graph : Graph) (index : Nat) (frames : List StampedFrame) :
    List (Except SessionError (PollResult Observation)) :=
  match poller.source with
  | .plain source => (graph.packetsOn source.stream index frames).map poller.answerTo
  | .gated source => (Gate.judged source.presence.stream source.payload.stream
      (graph.packetsOn source.presence.stream index frames)
      (graph.packetsOn source.payload.stream index frames)).map poller.answerOf

/-- A poller without a broken pair does not hear the end before its time. -/
theorem not_closed_mem_answers (wellFormed : graph.WellFormed) (paired : poller.IsPaired graph)
    (index : Nat) (frames : List StampedFrame) :
    .ok .closed ∉ poller.answers graph index frames := by
  have unclosed (gated : Gated) : poller.answerOf (.ok (.ready gated)) ≠ .ok .closed :=
    fun closed => nomatch answerOf_eq_closed closed
  obtain ⟨task, source⟩ := poller
  cases source with
  | plain source =>
      intro member
      obtain ⟨packet, _, same⟩ := List.mem_map.mp member
      exact unclosed _ same
  | gated source =>
      intro member
      obtain ⟨observed, judged, _⟩ := Graph.Pairs.exists_observed paired wellFormed index
        frames source.presence.stream source.payload.stream
      obtain ⟨answer, told, same⟩ := List.mem_map.mp member
      rw [judged] at told
      obtain ⟨gated, _, rfl⟩ := List.mem_map.mp told
      exact unclosed gated same

/-- Payloads of the kind that a task asks for are all observed. -/
theorem ready_of_mem_answers (wellFormed : graph.WellFormed) (paired : poller.IsPaired graph)
    (declared : graph.outputStreams.find? poller.stream = some poller.task.payload) {index : Nat}
    {frames : List StampedFrame} {answer : Except SessionError (PollResult Observation)}
    (member : answer ∈ poller.answers graph index frames) :
    ∃ observation, answer = .ok (.ready observation) := by
  have decoded {packet : Packet} (brought : packet ∈ graph.packetsOn poller.stream index frames) :
      ∃ observation, poller.answerTo packet = .ok (.ready observation) := by
    obtain ⟨output, decoded⟩ := Task.exists_decode
      (wellFormed.kind_of_mem_packetsOn declared brought) poller.stream
    exact ⟨_, by rw [answerTo, answerOf, observe, decoded]; rfl⟩
  obtain ⟨task, source⟩ := poller
  cases source with
  | plain source =>
      obtain ⟨packet, brought, rfl⟩ := List.mem_map.mp member
      exact decoded brought
  | gated source =>
      obtain ⟨observed, judged, _, _, paid⟩ := Graph.Pairs.exists_observed paired wellFormed
        index frames source.presence.stream source.payload.stream
      obtain ⟨answer, told, rfl⟩ := List.mem_map.mp member
      rw [judged] at told
      obtain ⟨gated, found, rfl⟩ := List.mem_map.mp told
      cases gated with
      | absent timestamp => exact ⟨_, rfl⟩
      | present packet =>
          have brought : packet ∈ graph.packetsOn source.payload.stream index frames :=
            paid ▸ List.mem_filterMap.mpr ⟨.present packet, found, rfl⟩
          exact decoded brought

/-- What a poller has heard comes first of all that there is to hear, whatever frames follow.
Where its queues have a bound and it is gated, it and the engine are a sound pipeline. -/
inductive IsProvided (graph : Graph) (room : Option Nat) (frames : List StampedFrame)
    (engine : SessionEngine) (outlets : Outlets)
    (heard : List (Except SessionError (PollResult Observation))) : OutputPoller → Prop
  | plain {task source}
      (hears : source.IsHeard ⟨task, .plain source⟩ graph heard frames engine outlets) :
      IsProvided graph room frames engine outlets heard ⟨task, .plain source⟩
  | gated {task source answers}
      (served : source.IsServed graph frames engine outlets answers)
      (same : heard = answers.map (answerOf ⟨task, .gated source⟩))
      (sound : ∀ capacity, room = some capacity → engine.worker.isSome = true →
        Pipeline.Sound graph capacity { engine, outlets, poller := source, frames, answers }) :
      IsProvided graph room frames engine outlets heard ⟨task, .gated source⟩

theorem IsProvided.heard_eq (provided : poller.IsProvided graph room frames engine outlets heard) :
    heard = andThen (.ok .closed) (poller.answers graph 0 frames) heard.length := by
  cases provided with
  | plain hears =>
      have first := hears.yields [] (fun _ => rfl) 0
      rw [List.append_nil, Nat.add_zero] at first
      exact (List.append_nil heard).symm.trans first
  | @gated task source told served same =>
      have first := (served.yields [] fun _ => rfl).heard_eq
      rw [List.append_nil, Gate.polls_abandoned rfl rfl] at first
      rw [same, List.length_map]
      conv => lhs; rw [first]
      exact andThen_map ..

theorem IsProvided.congr (provided : poller.IsProvided graph room frames engine outlets heard)
    (same : ∀ queue ∈ poller.queues,
      after.channels[queue.channel]? = outlets.channels[queue.channel]?)
    (sized : after.HasCapacity room) :
    poller.IsProvided graph room frames engine after heard := by
  cases provided with
  | plain hears => exact .plain (hears.congr (same _ List.mem_cons_self))
  | gated served heard sound =>
      have payload := same _ List.mem_cons_self
      have presence := same _ (List.mem_cons_of_mem _ List.mem_cons_self)
      refine .gated (served.congr presence payload) heard fun capacity bound works => ?_
      subst bound
      exact (sound capacity rfl works).withOutlets presence payload sized

/-- The same poller where it waits for a payload, or does not. -/
def withPending (poller : OutputPoller) (pending : Option Timestamp) : OutputPoller :=
  match poller.source with
  | .plain _ => poller
  | .gated source => { poller with source := .gated { source with pending } }

/-- A poller whose queues are bound is provided from the start of a run. -/
theorem isProvided_of_launch {bindings observers : StreamMap Binding} {sink : Option Unit}
    (rested : poller.withPending none = poller) (own : (poller.queues.map (·.channel)).Nodup)
    (bound : ∀ queue ∈ poller.queues, queue.IsBound bindings outlets)
    (alike : ∀ stream, observers.find? stream = bindings.find? stream)
    (begins : engine.worker = some { graph, observers, sink })
    (alone : poller.isGated = true → ∀ stream channel,
      bindings.find? stream = some (.poller channel) → stream ∈ poller.queues.map (·.stream))
    (sized : outlets.HasCapacity room) : poller.IsProvided graph room [] engine outlets [] := by
  obtain ⟨task, plain | gated⟩ := poller
  · obtain ⟨supplied, whole⟩ := (bound plain List.mem_cons_self).isSupplied alike begins
    refine .plain ⟨supplied, fun later _ number => ?_⟩
    rw [List.length_nil, whole, List.nil_append, List.nil_append, List.length_nil, Nat.zero_add]
  · have payload := bound _ List.mem_cons_self
    have presence := bound _ (List.mem_cons_of_mem _ List.mem_cons_self)
    have apart : gated.presence.channel ≠ gated.payload.channel := by
      have unlike : gated.payload.channel ∉ [gated.presence.channel] := (List.nodup_cons.mp own).1
      exact fun same => unlike (List.mem_singleton.mpr same.symm)
    have pending : gated.pending = none := by
      have same := OutputSource.gated.inj (congrArg OutputPoller.source rested)
      exact (congrArg GatedPoller.pending same).symm
    refine .gated (GatedPoller.isServed_of_launch pending apart presence payload alike begins) rfl
      fun capacity bounded _ => ?_
    subst bounded
    refine Session.sound_of_launch pending apart presence payload alike begins
      (fun stream channel found => ?_) sized
    rcases List.mem_cons.mp (alone rfl stream channel found) with same | last
    · exact .inr same
    · exact .inl (List.mem_singleton.mp last)

/-- What is provided goes on being so while frames come and the engine works. -/
theorem lasting_isProvided (wellFormed : graph.WellFormed) (paired : poller.IsPaired graph)
    (room : Option Nat) (heard : List (Except SessionError (PollResult Observation))) :
    Service.Lasting fun frames engine outlets =>
      poller.IsProvided graph room frames engine outlets heard where
  counted provided metrics := by
    cases provided with
    | plain hears => exact .plain ((Poller.lasting_isHeard ..).counted hears metrics)
    | gated served heard sound =>
        exact .gated (served.of_channels rfl) heard fun capacity bound works =>
          (sound capacity bound works).withOutlets rfl rfl (sound capacity bound works).sized
  withRun provided run := by
    cases provided with
    | plain hears => exact .plain ((Poller.lasting_isHeard ..).withRun hears run)
    | gated served heard sound =>
        exact .gated (served.withRun run) heard fun capacity bound works =>
          (sound capacity bound works).withRun run fun _ => works
  accept provided works run input := by
    cases provided with
    | plain hears => exact .plain ((Poller.lasting_isHeard ..).accept hears works run input)
    | gated served heard sound =>
        exact .gated (served.accept works run input) heard fun capacity bound _ =>
          (sound capacity bound works).accept works run input
  advance := by
    intro frames engine outlets provided worked
    cases provided with
    | plain hears => exact .plain ((Poller.lasting_isHeard ..).advance hears)
    | gated served heard sound =>
        refine .gated served.advance heard fun capacity bound works => ?_
        have worked : engine.worker.isSome = true := by
          refine Option.isSome_iff_ne_none.mpr fun idle => ?_
          simp only [worked, ScriptedEngine.advance, idle] at works
          contradiction
        exact ((sound capacity bound worked).advance wellFormed paired).2

theorem IsProvided.supplied
    (provided : poller.IsProvided graph room frames engine outlets heard) {queue : Poller}
    (member : queue ∈ poller.queues) : queue.IsSupplied graph frames.length engine outlets := by
  cases provided with
  | plain hears =>
      rw [List.mem_singleton.mp member]
      exact hears.supplied
  | gated served =>
      rcases List.mem_cons.mp member with rfl | last
      · exact served.payload
      · rw [List.mem_singleton.mp last]
        exact served.presence

section Pending

variable (poller) (pending : Option Timestamp)

@[simp] theorem task_withPending : (poller.withPending pending).task = poller.task := by
  obtain ⟨task, plain | gated⟩ := poller <;> rfl

@[simp] theorem stream_withPending : (poller.withPending pending).stream = poller.stream := by
  obtain ⟨task, plain | gated⟩ := poller <;> rfl

@[simp] theorem queues_withPending : (poller.withPending pending).queues = poller.queues := by
  obtain ⟨task, plain | gated⟩ := poller <;> rfl

@[simp] theorem withPending_withPending (other : Option Timestamp) :
    (poller.withPending pending).withPending other = poller.withPending other := by
  obtain ⟨task, plain | gated⟩ := poller <;> rfl

@[simp] theorem answers_withPending :
    (poller.withPending pending).answers = poller.answers := by
  obtain ⟨task, plain | gated⟩ := poller <;> rfl

@[simp] theorem isPaired_withPending :
    (poller.withPending pending).IsPaired graph ↔ poller.IsPaired graph := by
  obtain ⟨task, plain | gated⟩ := poller <;> rfl

@[simp] theorem hasOwnQueues_withPending :
    (poller.withPending pending).HasOwnQueues ↔ poller.HasOwnQueues := by
  obtain ⟨task, plain | gated⟩ := poller <;> rfl

theorem exists_withPending_self : ∃ pending, poller = poller.withPending pending := by
  obtain ⟨task, plain | gated⟩ := poller
  · exact ⟨none, rfl⟩
  · exact ⟨gated.pending, rfl⟩

/-- A poll leaves the poller with other packets ahead, and is otherwise the same. -/
theorem exists_withPending (isOpen : ChannelId → Bool) (outlets : Outlets) :
    ∃ pending, (poller.poll isOpen outlets).2.1 = poller.withPending pending := by
  obtain ⟨task, plain | gated⟩ := poller
  · exact ⟨none, rfl⟩
  · exact ⟨(gated.poll isOpen outlets).2.1.pending, rfl⟩

end Pending

/-- Two pollers have neither a stream nor a queue in common. -/
structure Apart (one other : OutputPoller) : Prop where
  stream : one.stream ≠ other.stream
  queues : ∀ queue ∈ one.queues, ∀ another ∈ other.queues, queue.channel ≠ another.channel

theorem Apart.symm {one other : OutputPoller} (apart : one.Apart other) : other.Apart one :=
  ⟨apart.stream.symm, fun queue member another known =>
    (apart.queues another known queue member).symm⟩

@[simp] theorem apart_withPending (one other : OutputPoller) (pending due : Option Timestamp) :
    (one.withPending pending).Apart (other.withPending due) ↔ one.Apart other := by
  constructor
  all_goals
    intro apart
    refine ⟨?_, ?_⟩
    · simpa only [stream_withPending] using apart.stream
    · simpa only [queues_withPending] using apart.queues

section Polling

variable {isOpen : ChannelId → Bool} {channel : ChannelId}

/-- A poll reads no other queues. -/
theorem poll_elsewhere (apart : ∀ queue ∈ poller.queues, queue.channel ≠ channel) :
    (poller.poll isOpen outlets).2.2.channels[channel]? = outlets.channels[channel]? := by
  obtain ⟨task, plain | gated⟩ := poller
  · exact Outlets.getElem?_setPackets_of_ne (apart _ List.mem_cons_self)
  · exact (Outlets.getElem?_setPackets_of_ne (apart _ List.mem_cons_self)).trans
      (Outlets.getElem?_setPackets_of_ne (apart _ (List.mem_cons_of_mem _ List.mem_cons_self)))

theorem detach_elsewhere (apart : ∀ queue ∈ poller.queues, queue.channel ≠ channel) :
    (poller.detach outlets).channels[channel]? = outlets.channels[channel]? := by
  obtain ⟨task, plain | gated⟩ := poller
  · exact Outlets.getElem?_detach_of_ne (apart _ List.mem_cons_self)
  · exact (Outlets.getElem?_detach_of_ne
      (apart _ (List.mem_cons_of_mem _ List.mem_cons_self))).trans
        (Outlets.getElem?_detach_of_ne (apart _ List.mem_cons_self))

/-- Nobody can read the queues of a poller that was given up. -/
theorem not_stands_detach {queue : Poller} (member : queue ∈ poller.queues) :
    ¬ (poller.detach outlets).Stands queue.channel := by
  obtain ⟨task, plain | gated⟩ := poller
  · rw [List.mem_singleton.mp member]
    exact outlets.not_stands_detach plain.channel
  · rcases List.mem_cons.mp member with rfl | last
    · exact fun stands =>
        outlets.not_stands_detach gated.payload.channel (Outlets.stands_of_detach stands)
    · rw [List.mem_singleton.mp last]
      exact Outlets.not_stands_detach _ gated.presence.channel

/-- A poll hears nothing, or what comes next. -/
theorem IsProvided.poll (provided : poller.IsProvided graph room frames engine outlets heard)
    (opened : engine.worker.isSome = true → ∀ queue ∈ poller.queues,
      isOpen queue.channel = true) :
    let polled := poller.poll isOpen outlets
    polled.2.1.IsProvided graph room frames engine polled.2.2
      (heard ++ [polled.1].filter (!saysNothing ·)) := by
  intro polled
  cases provided with
  | @plain task source hears =>
      have polls : polled = _ := poll_plain task source isOpen outlets
      rw [polls]
      exact .plain (hears.poll fun works => opened works _ List.mem_cons_self)
  | @gated task source answers served same sound =>
      have polls : polled = _ := poll_gated task source isOpen outlets
      have both (works : engine.worker.isSome = true) :
          isOpen source.presence.channel = true ∧ isOpen source.payload.channel = true :=
        ⟨opened works _ (List.mem_cons_of_mem _ List.mem_cons_self),
          opened works _ List.mem_cons_self⟩
      rw [polls]
      refine .gated (served.poll both) ?_ fun capacity bound works =>
        (sound capacity bound works).polled both
      rw [same, List.map_append]
      simp only [List.filter_cons, saysNothing_answerOf, List.filter_nil]
      cases saysNothing (source.poll isOpen outlets).1 <;> rfl

/-- Where the queues of a poller are closed, the engine is done. -/
theorem IsProvided.idle_of_closed
    (provided : poller.IsProvided graph room frames engine outlets heard)
    (opened : engine.worker.isSome = true → ∀ queue ∈ poller.queues,
      isOpen queue.channel = true)
    (closed : (poller.poll isOpen outlets).1 = .ok .closed) : engine.worker = none := by
  refine Option.not_isSome_iff_eq_none.mp fun works => ?_
  have opened := opened works
  cases provided with
  | @plain task source hears =>
      rw [poll_plain, Poller.poll, hears.supplied.stands.inbox_eq,
        opened source List.mem_cons_self] at closed
      have taken := answerOf_eq_closed closed
      cases waiting : outlets.queue source.channel <;>
        simp only [waiting, Inbox.take] at taken <;> cases taken
  | @gated task source answers served same sound =>
      rw [poll_gated] at closed
      rcases Gate.closed_of_poll (answerOf_eq_closed closed) with signals | pays
      · have same : (source.gate isOpen outlets).presence = _ :=
          served.presence.stands.inbox_eq isOpen
        rw [same, opened source.presence (List.mem_cons_of_mem _ List.mem_cons_self)] at signals
        contradiction
      · have same : (source.gate isOpen outlets).payload = _ :=
          served.payload.stands.inbox_eq isOpen
        rw [same, opened source.payload List.mem_cons_self] at pays
        contradiction

/-- An engine never waits for room in a queue whose poller finds nothing to take. -/
theorem IsProvided.takes_of_isFull
    (provided : poller.IsProvided graph room frames engine outlets heard)
    (wellFormed : graph.WellFormed) (paired : poller.IsPaired graph)
    (sized : outlets.HasCapacity room) {worker : Worker Binding Unit}
    (found : engine.worker = some worker) (held : SessionEngine.HoldsUp worker outlets)
    {queue : Poller} (member : queue ∈ poller.queues) {channel : Channel}
    (present : outlets.channels[queue.channel]? = some channel) (full : channel.isFull = true)
    (nothing : (poller.poll isOpen outlets).1 = .ok .empty) :
    (poller.poll isOpen outlets).2.2 ≠ outlets := by
  intro untaken
  have waiting := Outlets.queue_ne_nil_of_isFull sized present full
  cases provided with
  | @plain task source hears =>
      rw [List.mem_singleton.mp member] at waiting
      rw [poll_plain, Poller.poll, hears.supplied.stands.inbox_eq] at nothing
      cases queued : outlets.queue source.channel with
      | nil => exact waiting queued
      | cons packet rest =>
          simp only [queued, Inbox.take] at nothing
          have spoken := saysNothing_answerTo ⟨task, .plain source⟩ packet
          rw [show answerTo _ packet = _ from nothing] at spoken
          contradiction
  | @gated task source answers served same sound =>
      cases room with
      | none =>
          have capacity := sized channel (List.mem_of_getElem? present)
          rw [Channel.isFull, capacity] at full
          contradiction
      | some capacity =>
          have sound := sound capacity rfl (by rw [found]; rfl)
          refine sound.not_isBare wellFormed paired found held isOpen ?_
          rw [poll_gated] at nothing untaken
          obtain ⟨⟨_, left⟩, _⟩ := GatedPoller.queues_put served.apart served.presence.stands
            served.payload.stands (source.gate isOpen outlets).poll.2
          have kept : (source.gate isOpen outlets).poll.2.presence.packets =
              outlets.queue source.presence.channel :=
            left.symm.trans (congrArg (Outlets.queue · source.presence.channel) untaken)
          exact Gate.isBare_of_poll (answerOf_eq_empty nothing)
            (kept.trans (outlets.packets_inbox isOpen _).symm)

end Polling

/-- A poller that has heard the end has observed all that there is to observe. -/
theorem IsProvided.observed_of_closed
    (provided : poller.IsProvided graph room frames engine outlets heard)
    (wellFormed : graph.WellFormed) (paired : poller.IsPaired graph)
    (closed : .ok .closed ∈ heard) : observed heard = observed (poller.answers graph 0 frames) := by
  have told := provided.heard_eq
  by_cases enough : (poller.answers graph 0 frames).length ≤ heard.length
  · rw [told, observed_andThen enough]
  · rw [told, andThen_eq, Nat.sub_eq_zero_of_le (Nat.le_of_not_le enough), List.replicate_zero,
      List.append_nil] at closed
    exact absurd (List.mem_of_mem_take closed) (not_closed_mem_answers wellFormed paired 0 frames)

/-- A poller fails only where its stream carries something else than its task asks for. -/
theorem IsProvided.undeclared
    (provided : poller.IsProvided graph room frames engine outlets heard)
    (wellFormed : graph.WellFormed) (paired : poller.IsPaired graph) {error : SessionError}
    (failed : .error error ∈ heard) :
    graph.outputStreams.find? poller.stream ≠ some poller.task.payload := by
  intro declared
  rw [provided.heard_eq, andThen_eq] at failed
  rcases List.mem_append.mp failed with told | ended
  · obtain ⟨observation, same⟩ :=
      ready_of_mem_answers wellFormed paired declared (List.mem_of_mem_take told)
    contradiction
  · cases List.eq_of_mem_replicate ended

end OutputPoller

end FrameFlow
