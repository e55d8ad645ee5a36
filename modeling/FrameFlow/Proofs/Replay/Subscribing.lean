import FrameFlow.Proofs.Replay.Opening
import FrameFlow.Proofs.Replay.Polling

/-!
The start of a replay that polls its outputs. Each port that its plan wants gets a consumer, with
queues that nobody else reads; then the preview is bound if it is wanted, and nothing else.
-/

namespace FrameFlow

/-- The streams that a poller of a port reads. -/
def Port.streams (port : Port) : List String := port.output :: port.presence.toList

namespace Preset

theorem streams_nodup (preset : Preset) :
    ∀ port ∈ preset.layout, port.streams.Nodup ∧ "output_video" ∉ port.streams := by
  cases preset <;> decide

/-- Only tasks with a single output have a presence stream. -/
theorem layout_of_gated {preset : Preset} {port : Port} (member : port ∈ preset.layout)
    (gated : port.presence ≠ none) : preset.layout = [port] := by
  have alone : ∀ preset : Preset, ∀ port ∈ preset.layout, port.presence ≠ none →
      preset.layout = [port] := by
    intro preset
    cases preset <;> decide
  exact alone preset port member gated

end Preset

/-- What a poller of a port is before it is used. -/
structure Port.IsPolled (port : Port) (task : Task) (bindings : StreamMap Binding)
    (outlets : Outlets) (poller : OutputPoller) : Prop where
  task : poller.task = task
  stream : poller.stream = port.output
  streams : poller.queues.map (·.stream) = port.streams
  rested : poller.withPending none = poller
  bound : ∀ queue ∈ poller.queues, queue.IsBound bindings outlets
  nodup : (poller.queues.map (·.channel)).Nodup

theorem Wish.IsMet.isPolled {port : Port} {task : Task} {bindings : StreamMap Binding}
    {outlets : Outlets} {poller : OutputPoller} {previewStream : String}
    (met : (Wish.polledOutputs port).IsMet task previewStream (.outputs poller) bindings outlets)
    (apart : port.streams.Nodup) : port.IsPolled task bindings outlets poller := by
  have nodup := met.channels_nodup apart
  have polled := met.polled
  have fresh := met.fresh
  cases met.gets with
  | plain gates =>
      exact ⟨rfl, rfl, by rw [Port.streams, gates]; rfl, rfl, polled, nodup⟩
  | gated gates =>
      refine ⟨rfl, rfl, by rw [Port.streams, gates]; rfl, ?_, polled, nodup⟩
      cases fresh
      rfl

namespace Port.IsPolled

variable {port : Port} {task : Task} {bindings : StreamMap Binding} {outlets : Outlets}
  {poller : OutputPoller}

theorem hasOwnQueues (polled : port.IsPolled task bindings outlets poller) :
    poller.HasOwnQueues := by
  obtain ⟨source, plain | gated⟩ := poller
  · trivial
  · have unlike : gated.payload.channel ∉ [gated.presence.channel] :=
      (List.nodup_cons.mp polled.nodup).1
    exact fun same => unlike (List.mem_singleton.mpr same.symm)

theorem ungated {kind : Task} {source : Poller}
    (polled : port.IsPolled task bindings outlets ⟨kind, .plain source⟩) :
    port.presence = none := by
  have streams : [source.stream] = port.streams := polled.streams
  cases gates : port.presence with
  | none => rfl
  | some presence => simp [Port.streams, gates] at streams

theorem gated {kind : Task} {source : GatedPoller}
    (polled : port.IsPolled task bindings outlets ⟨kind, .gated source⟩) :
    port.presence = some source.presence.stream := by
  have streams : [source.payload.stream, source.presence.stream] = port.streams := polled.streams
  cases gates : port.presence with
  | none => simp [Port.streams, gates] at streams
  | some presence =>
      rw [Port.streams, gates] at streams
      exact congrArg some (List.singleton_inj.mp (List.cons_eq_cons.mp streams).2).symm

theorem isPaired (polled : port.IsPolled task bindings outlets poller) {graph : Graph}
    (pairs : ∀ presence, port.presence = some presence → graph.Pairs presence port.output) :
    poller.IsPaired graph := by
  have stream := polled.stream
  obtain ⟨source, plain | gated⟩ := poller
  · trivial
  · have stream : gated.payload.stream = port.output := stream
    rw [OutputPoller.IsPaired]
    simp only [stream]
    exact pairs _ polled.gated

/-- Pollers of ports that have no stream in common are not in each other's way. -/
theorem apart (polled : port.IsPolled task bindings outlets poller) {other : Port}
    {another : OutputPoller} (polls : other.IsPolled task bindings outlets another)
    (unlike : ∀ stream ∈ port.streams, stream ∉ other.streams) : poller.Apart another := by
  refine ⟨fun same => ?_, fun queue member theirs known same => ?_⟩
  · rw [polled.stream, polls.stream] at same
    exact unlike port.output List.mem_cons_self (same ▸ List.mem_cons_self)
  · have own := ((polled.bound queue member).owns queue.stream).mpr rfl
    rw [same] at own
    have stream := ((polls.bound theirs known).owns queue.stream).mp own
    refine unlike queue.stream (polled.streams ▸ List.mem_map_of_mem member) ?_
    rw [stream, ← polls.streams]
    exact List.mem_map_of_mem known

end Port.IsPolled

/-- Where a plan polls, the presence stream of every port that it wants goes with the payloads. -/
def ReplayPlan.Pairs (plan : ReplayPlan) (graph : Graph) : Prop :=
  ∀ port ∈ plan.ports, ∀ presence, port.presence = some presence →
    graph.Pairs presence port.output

/-- A session with a graph, to which outputs may be bound. -/
structure Session.TakesWishes (task : Task) (room : Option Nat) (graph : Graph)
    (session : Session SessionEngine) : Prop where
  coupled : session.Coupled
  settled : session.Settled
  made : session.HasMade
  lifecycle : session.lifecycle = { state := .configured }
  task : session.task = task
  config : session.config = { pollerCapacity := room }
  loaded : session.engine.graph = some graph
  listens : session.outlets.errorListener = some Replay.listener
  silent : session.outlets.events = []

theorem Session.TakesWishes.granted {task : Task} {room : Option Nat} {graph : Graph}
    {session next : Session SessionEngine} {wish : Wish} {answer : Answer}
    (takes : session.TakesWishes task room graph)
    (performed : session.perform wish.action = (answer, next))
    (grants : session.Grants next wish) : next.TakesWishes task room graph := by
  have step := session.perform_step wish.action
  have made := takes.made.perform wish.action
  rw [performed] at step made
  obtain ⟨_, extended⟩ := grants.extended
  exact ⟨takes.coupled.step step, takes.settled.step takes.coupled step, made,
    grants.lifecycle.trans takes.lifecycle, grants.task.trans takes.task,
    grants.config.trans takes.config,
    (congrArg ScriptedEngine.graph grants.engine).trans takes.loaded,
    grants.listens.trans takes.listens, extended.events.trans takes.silent⟩

namespace Replay

variable {plan : ReplayPlan} {graph : Graph} {ports : List Port} {replay : Replay}

/-- Some ports have a consumer each, the preview is bound or is not yet, and nothing else is. -/
structure Seats (plan : ReplayPlan) (graph : Graph) (previewed : Bool) (ports : List Port)
    (replay : Replay) : Prop where
  follows : replay.plan = plan
  unwritten : replay.lines = []
  unfailed : replay.runtimeErrors = 0
  takes : replay.session.TakesWishes plan.preset.task plan.pollerCapacity graph
  met : List.Forall₂ (fun port consumer => consumer.ending = none ∧
    (Wish.polledOutputs port).IsMet plan.preset.task "output_video" (.outputs consumer.poller)
      replay.session.bindings.bindings replay.session.outlets) ports replay.consumers
  bound : ∀ stream binding, replay.session.bindings.bindings.find? stream = some binding →
    (∃ port ∈ ports, stream ∈ port.streams ∧ ∃ channel, binding = .poller channel) ∨
      previewed = true ∧ stream = "output_video" ∧ binding = .preview listener
  viewed : previewed = true →
    replay.session.bindings.bindings.find? "output_video" = some (.preview listener)

/-- A wish for streams that are not bound yet is granted, and nobody else minds. -/
theorem Seats.exists_granted (seats : replay.Seats plan graph false ports) (wish : Wish)
    (unbound : ∀ stream ∈ wish.streams "output_video", ∀ port ∈ ports, stream ∉ port.streams)
    (apart : (wish.streams "output_video").Nodup) :
    ∃ answer ticket next, replay.session.perform wish.action = (answer, next) ∧
      answer.ticket? = some ticket ∧ replay.session.Grants next wish ∧
      next.TakesWishes plan.preset.task plan.pollerCapacity graph ∧
      wish.IsMet plan.preset.task "output_video" ticket next.bindings.bindings next.outlets ∧
      List.Forall₂ (fun port consumer => consumer.ending = none ∧
        (Wish.polledOutputs port).IsMet plan.preset.task "output_video"
          (.outputs consumer.poller) next.bindings.bindings next.outlets)
        ports replay.consumers := by
  have preview : replay.session.config.previewStream = "output_video" := by
    rw [seats.takes.config]
  have queued {stream : String} {binding : Binding}
      (found : replay.session.bindings.bindings.find? stream = some binding) :
      (∃ port ∈ ports, stream ∈ port.streams) ∧ ∃ channel, binding = .poller channel := by
    rcases seats.bound stream binding found with ⟨port, member, own, made⟩ | ⟨none, _⟩
    · exact ⟨⟨port, member, own⟩, made⟩
    · contradiction
  obtain ⟨answer, ticket, next, performed, handed, grants, met⟩ :=
    Session.meets_of_unbound wish (congrArg Lifecycle.state seats.takes.lifecycle)
      seats.takes.made
      (by
        rw [preview]
        intro stream member
        refine Option.eq_none_iff_forall_ne_some.mpr fun binding found => ?_
        obtain ⟨⟨port, known, own⟩, _⟩ := queued found
        exact unbound stream member port known own)
      (by rw [preview]; exact apart)
      (by
        intro listener _ stream binding found
        obtain ⟨_, channel, rfl⟩ := queued found
        nofun)
      (by
        intro stream place found
        obtain ⟨_, channel, same⟩ := queued found
        cases same)
  rw [seats.takes.task, preview] at met
  refine ⟨answer, ticket, next, performed, handed, grants,
    seats.takes.granted performed grants, met, ?_⟩
  have own := (List.forall₂_and_left ports _).mpr ⟨fun _ member => member, seats.met⟩
  refine own.imp fun port consumer => ?_
  rintro ⟨member, goes, met⟩
  refine ⟨goes, ?_⟩
  rw [← preview] at met ⊢
  refine met.kept grants (fun stream known other => ?_) nofun
  rw [preview] at known other
  exact unbound stream other port member known

theorem Seats.bindPort (seats : replay.Seats plan graph false ports) (mode : plan.mode = .poll)
    {port : Port} (fresh : ∀ stream ∈ port.streams, ∀ other ∈ ports, stream ∉ other.streams)
    (apart : port.streams.Nodup) (unviewed : "output_video" ∉ port.streams) :
    ∃ next, replay.bindPort port = .ok next ∧ next.Seats plan graph false (ports ++ [port]) := by
  obtain ⟨answer, ticket, session, performed, handed, grants, takes, met, others⟩ :=
    seats.exists_granted (.polledOutputs port) fresh apart
  have preview : replay.session.config.previewStream = "output_video" := by
    rw [seats.takes.config]
  rcases bound : replay.session.bindPoller port with ⟨error | poller, after⟩
  · simp only [Wish.action, Session.perform, bound, Session.answered] at performed
    cases performed
    contradiction
  · simp only [Wish.action, Session.perform, bound, Session.answered] at performed
    cases performed
    cases handed
    let consumer : Consumer := { poller }
    have seat : consumer.ending = none ∧ (Wish.polledOutputs port).IsMet plan.preset.task
        "output_video" (.outputs consumer.poller) session.bindings.bindings session.outlets :=
      ⟨rfl, met⟩
    refine ⟨{ replay with session, consumers := replay.consumers ++ [consumer] }, ?_,
      seats.follows, seats.unwritten, seats.unfailed, takes, ?_, fun stream binding found => ?_,
      fun viewed => absurd viewed Bool.false_ne_true⟩
    · simp only [Replay.bindPort, seats.follows, mode, bound]
      rfl
    · exact List.rel_append others (.cons seat .nil)
    · by_cases own : stream ∈ port.streams
      · obtain ⟨made, known, silent, _, viewed⟩ :=
          grants.bound stream (by rw [preview]; exact own)
        cases known.symm.trans found
        refine .inl ⟨port, List.mem_append_right _ List.mem_cons_self, own, ?_⟩
        cases binding with
        | poller channel => exact ⟨channel, rfl⟩
        | latest place => exact absurd ((viewed place rfl).trans preview ▸ own) unviewed
        | _ => cases silent
      · rw [grants.others stream (by rw [preview]; exact own)] at found
        rcases seats.bound stream binding found with ⟨other, known, rest⟩ | ⟨none, _⟩
        · exact .inl ⟨other, List.mem_append_left _ known, rest⟩
        · contradiction

/-- Who is in a replay that is about to start on a graph. -/
def roster (graph : Graph) (replay : Replay) : Roster where
  graph
  room := replay.plan.pollerCapacity
  bindings := replay.session.bindings.bindings
  pollers := Consumer.pollers replay.consumers
  line? := replay.eventLine?

section Roster

variable {previewed : Bool}

theorem Seats.polled (seats : replay.Seats plan graph previewed plan.ports) :
    List.Forall₂ (fun port consumer => port ∈ plan.ports ∧ consumer.ending = none ∧
      port.IsPolled plan.preset.task replay.session.bindings.bindings replay.session.outlets
        consumer.poller) plan.ports replay.consumers := by
  have own := (List.forall₂_and_left plan.ports _).mpr ⟨fun _ member => member, seats.met⟩
  refine own.imp fun port consumer => ?_
  rintro ⟨member, goes, met⟩
  exact ⟨member, goes,
    met.isPolled (plan.preset.streams_nodup port (List.mem_filter.mp member).1).1⟩

theorem Seats.exists_seat (seats : replay.Seats plan graph previewed plan.ports)
    {consumer : Consumer} (member : consumer ∈ replay.consumers) :
    ∃ port ∈ plan.ports, consumer.ending = none ∧ port.IsPolled plan.preset.task
      replay.session.bindings.bindings replay.session.outlets consumer.poller := by
  obtain ⟨length, each⟩ := List.forall₂_iff_get.mp seats.polled
  obtain ⟨place, inside, rfl⟩ := List.getElem_of_mem member
  exact ⟨_, each place (length ▸ inside) inside⟩

theorem Seats.pollers_eq (seats : replay.Seats plan graph previewed plan.ports) :
    (replay.roster graph).pollers = replay.consumers.map (·.poller) := by
  refine List.map_congr_left fun consumer member => ?_
  obtain ⟨_, _, _, polled⟩ := seats.exists_seat member
  exact polled.rested

theorem Seats.exists_port (seats : replay.Seats plan graph previewed plan.ports)
    {poller : OutputPoller} (member : poller ∈ (replay.roster graph).pollers) :
    ∃ port ∈ plan.ports, port.IsPolled plan.preset.task replay.session.bindings.bindings
      replay.session.outlets poller := by
  rw [seats.pollers_eq] at member
  obtain ⟨consumer, known, rfl⟩ := List.mem_map.mp member
  obtain ⟨port, wanted, _, polled⟩ := seats.exists_seat known
  exact ⟨port, wanted, polled⟩

theorem Seats.exists_poller (seats : replay.Seats plan graph previewed plan.ports) {port : Port}
    (member : port ∈ plan.ports) :
    ∃ poller ∈ (replay.roster graph).pollers, port.IsPolled plan.preset.task
      replay.session.bindings.bindings replay.session.outlets poller := by
  obtain ⟨length, each⟩ := List.forall₂_iff_get.mp seats.polled
  obtain ⟨place, inside, rfl⟩ := List.getElem_of_mem member
  have polled := (each place inside (length ▸ inside)).2.2
  rw [seats.pollers_eq]
  exact ⟨_, List.mem_map_of_mem (List.getElem_mem (length ▸ inside)), polled⟩

/-- Only the streams of a gated poller have queues where there is one. -/
theorem Seats.alone (seats : replay.Seats plan graph previewed plan.ports) {port : Port}
    {poller : OutputPoller} (member : port ∈ plan.ports)
    (polled : port.IsPolled plan.preset.task replay.session.bindings.bindings
      replay.session.outlets poller) (gated : poller.isGated = true) {stream : String}
    {channel : ChannelId}
    (found : replay.session.bindings.bindings.find? stream = some (.poller channel)) :
    stream ∈ poller.queues.map (·.stream) := by
  have known := (List.mem_filter.mp member).1
  have signals : port.presence ≠ none := by
    intro none
    obtain ⟨task, plain | source⟩ := poller
    · contradiction
    · exact nomatch none.symm.trans polled.gated
  have only := Preset.layout_of_gated known signals
  rcases seats.bound stream _ found with ⟨other, wanted, own, _⟩ | ⟨_, _, other⟩
  · have same : other ∈ [port] := only ▸ (List.mem_filter.mp wanted).1
    rw [polled.streams, ← List.mem_singleton.mp same]
    exact own
  · cases other

/-- A replay that has started has nothing to write yet, if its consumers have not. -/
theorem proceeds_of_start (follows : replay.plan = plan) (unwritten : replay.lines = [])
    (unfailed : replay.runtimeErrors = 0)
    (takes : replay.session.TakesWishes plan.preset.task plan.pollerCapacity graph)
    {begun : Session SessionEngine} (starts : replay.session.start = (.ok (), begun))
    (attends : Session.Launched graph replay.session begun →
      begun.outlets.HasCapacity plan.pollerCapacity → ∀ consumer ∈ replay.consumers,
        consumer.Attends graph plan.pollerCapacity [] [] begun.engine begun.outlets) :
    Proceeds (replay.roster graph) [] { replay with session := begun } := by
  subst follows
  obtain ⟨coupled, settled, _, _, _, config, loaded, listens, silent⟩ := takes
  have step : replay.session.Step .start _ begun :=
    Session.step_of_perform (by rw [Session.perform, Session.answered_snd, starts])
  have launched := Session.launched_of_start coupled starts loaded
  obtain ⟨observers, begins, alike⟩ := launched.worker
  have sized : begun.outlets.HasCapacity replay.plan.pollerCapacity := by
    have fitting := (settled.step coupled step).sized
    rw [step.config, config] at fitting
    exact fitting
  obtain ⟨_, engine, _, same⟩ := Session.exists_of_start starts
  refine ⟨coupled.step step, ?_, sized, fun _ => ?_, rfl, ?_, fun consumer member => ?_,
    [], ⟨?_, fun worker found => ?_, ?_⟩, ?_, unfailed⟩
  · rw [same]
    exact Session.rests_settle _
  · rw [begins]
    rfl
  · refine eventLine?_congr ?_ ?_ <;> rw [same] <;> rfl
  · change consumer.Attends graph replay.plan.pollerCapacity
      (Line.on consumer.poller.stream replay.lines) [] begun.engine begun.outlets
    rw [unwritten]
    exact attends launched sized consumer member
  · rw [launched.outlets]
    exact listens
  · cases begins.symm.trans found
    exact ⟨rfl, rfl, alike, rfl⟩
  · rw [launched.outlets, silent, ScriptedEngine.owed, begins]
    rfl
  · change replay.lines.filter _ = _
    rw [unwritten]
    rfl

theorem Seats.proceeds (seats : replay.Seats plan graph previewed plan.ports)
    {begun : Session SessionEngine} (starts : replay.session.start = (.ok (), begun)) :
    Proceeds (replay.roster graph) [] { replay with session := begun } := by
  refine proceeds_of_start seats.follows seats.unwritten seats.unfailed seats.takes starts
    fun launched sized consumer member => ?_
  obtain ⟨observers, begins, alike⟩ := launched.worker
  obtain ⟨port, wanted, goes, polled⟩ := seats.exists_seat member
  have bound := polled.bound
  rw [← launched.outlets] at bound
  refine .goes goes (OutputPoller.isProvided_of_launch polled.rested polled.nodup bound alike
    begins (fun gated stream channel found => ?_) sized) rfl
  exact seats.alone wanted polled gated found

end Roster

end Replay

end FrameFlow
