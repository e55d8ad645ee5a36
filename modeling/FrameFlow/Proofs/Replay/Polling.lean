import FrameFlow.Proofs.Replay.Attending
import FrameFlow.Proofs.Session.Books

/-!
Replays between two frames, whoever is told of outputs or polls them. Lines come from consumers,
which write what they observe, and from listeners, who are told of what the engine emits; and
where each payload has its presence, the engine never waits for a consumer that waits itself.
-/

namespace FrameFlow

/-- All that listeners are told of an emission. -/
def Emission.events (bindings : StreamMap Binding) (emission : Emission) : List Event :=
  (emission.entry bindings).events (some Replay.listener)

/-- A worker emits what its graph has for some frames: listeners were told of the first part, are
told of the next one, and the rest is owed. -/
structure SessionEngine.Tells (graph : Graph) (bindings : StreamMap Binding) (seen : List Event)
    (frames : List StampedFrame) (engine : SessionEngine) (outlets : Outlets) : Prop where
  listens : outlets.errorListener = some Replay.listener
  worker : ∀ worker, engine.worker = some worker →
    worker.graph = graph ∧ worker.sink = some () ∧
      (∀ stream, worker.observers.find? stream = bindings.find? stream) ∧
      worker.index + worker.waiting.length = frames.length
  whole : seen ++ outlets.events ++ engine.owed.flatMap (Emission.events bindings) =
    (graph.emissionsFrom 0 frames).flatMap (Emission.events bindings)

namespace SessionEngine

variable {graph : Graph} {bindings : StreamMap Binding} {seen : List Event}
  {frames : List StampedFrame} {engine : SessionEngine} {outlets : Outlets}

theorem lasting_tells (graph : Graph) (bindings : StreamMap Binding) (seen : List Event) :
    Service.Lasting (Tells graph bindings seen) where
  counted tells _ := ⟨tells.listens, tells.worker, tells.whole⟩
  withRun tells _ := ⟨tells.listens, tells.worker, tells.whole⟩
  accept := by
    intro frames engine outlets tells works run input
    obtain ⟨worker, found⟩ := Option.isSome_iff_exists.mp works
    obtain ⟨played, reports, alike, position⟩ := tells.worker worker found
    have given : (engine.accept run input).worker = some (worker.enqueue input) := by
      rw [ScriptedEngine.accept, found]
      rfl
    refine ⟨tells.listens, fun left known => ?_, ?_⟩
    · cases given.symm.trans known
      refine ⟨played, reports, alike, ?_⟩
      have longer : (worker.enqueue input).waiting.length = worker.waiting.length + 1 :=
        List.length_append
      rw [longer, List.length_append, ← position]
      rfl
    · have later : graph.emissionsFrom 0 (frames ++ [input]) =
          graph.emissionsFrom 0 frames ++ graph.emissions frames.length input := by
        rw [Graph.emissionsFrom_append, Nat.zero_add, Graph.emissionsFrom, Graph.emissionsFrom,
          List.append_nil]
      rw [ScriptedEngine.owed_accept found, played, position, later, List.flatMap_append,
        List.flatMap_append, ← tells.whole]
      simp only [List.append_assoc]
  advance := by
    intro frames engine outlets tells worked
    cases found : engine.worker with
    | none =>
        have idle : worked = (engine, outlets) := by
          simp only [worked, ScriptedEngine.advance, found]
        rw [idle]
        exact tells
    | some worker =>
        obtain ⟨played, reports, alike, position⟩ := tells.worker worker found
        obtain ⟨done, owed, emits, continues⟩ :=
          ScriptedEngine.exists_emits SessionEngine.reaction found outlets
        rw [reports] at emits
        obtain ⟨listens, events⟩ := Outlets.events_of_emits emits
        simp only [Emission.entry_congr alike, tells.listens] at listens events
        refine ⟨listens, fun left known => ?_, ?_⟩
        · obtain ⟨graph, observers, sink, still⟩ := continues left known
          exact ⟨graph.trans played, sink.trans reports, observers ▸ alike, still.trans position⟩
        · rw [← tells.whole, owed, List.flatMap_append, show worked.2.events = _ from events]
          simp only [List.append_assoc]
          rfl

theorem Tells.mem_events {event : Event} (tells : Tells graph bindings seen frames engine outlets)
    (member : event ∈ outlets.events) :
    ∃ emission : Emission, event ∈ emission.events bindings := by
  have known : event ∈ (graph.emissionsFrom 0 frames).flatMap (Emission.events bindings) := by
    rw [← tells.whole]
    exact List.mem_append_left _ (List.mem_append_right _ member)
  obtain ⟨emission, _, told⟩ := List.mem_flatMap.mp known
  exact ⟨emission, told⟩

/-- Listeners take what they were told. -/
theorem Tells.taken (tells : Tells graph bindings seen frames engine outlets) :
    Tells graph bindings (seen ++ outlets.events) frames engine { outlets with events := [] } := by
  refine ⟨tells.listens, tells.worker, ?_⟩
  rw [List.append_nil]
  exact tells.whole

end SessionEngine

namespace Session

variable {session next : Session SessionEngine}

/-- A frame is only taken while a session runs; its engine is run then. -/
theorem exists_of_feedAt (coupled : session.Coupled) {input : StampedFrame}
    (fed : session.feedAt input = (.ok (), next)) :
    session.state = .running ∧ ∃ run, next = settle { session with
      engine := session.engine.accept run input
      lifecycle := session.lifecycle.accepted input.timestamp
      outlets := session.outlets.countFed } := by
  cases checked : session.lifecycle.checkStamp input.timestamp with
  | error error =>
      simp only [feedAt, checked, reject] at fed
      cases fed
  | ok done =>
      obtain ⟨running, _⟩ := Lifecycle.checkStamp_eq_ok_iff.mp checked
      obtain ⟨run, same⟩ := coupled.agrees.feedAt_of_checked running checked
      rw [same] at fed
      cases fed
      exact ⟨running, run, rfl⟩

/-- When a run is stopped, its engine goes on with a closed input, and then without a run. -/
theorem stop_eq_settle (coupled : session.Coupled) (running : session.state = .running) :
    ∃ run,
      let closed : SessionEngine := { session.engine with run := some run }
      let worked := closed.advance SessionEngine.reaction session.outlets
      session.stop = settle { session with
        engine := { worked.1 with run := none }
        outlets := worked.2
        lifecycle := session.lifecycle.stopped } := by
  obtain ⟨run, ended⟩ := coupled.agrees.endRun_eq running
  refine ⟨run, ?_⟩
  simp only [stop, running, ended]
  rfl

end Session

namespace Replay

/-- What stays the same of a replay from its start on: the graph, the room in queues, what is
bound, the pollers of the consumers, and what lines become of what listeners are told. -/
structure Roster where
  graph : Graph
  room : Option Nat
  bindings : StreamMap Binding
  pollers : List OutputPoller
  line? : Event → Option Line

/-- No two consumers are in each other's way, every queue has a consumer, payloads go with their
presences, and listeners are not told what consumers write. -/
structure Roster.IsFair (roster : Roster) : Prop where
  wellFormed : roster.graph.WellFormed
  paired : ∀ poller ∈ roster.pollers, poller.IsPaired roster.graph
  own : ∀ poller ∈ roster.pollers, poller.HasOwnQueues
  apart : roster.pollers.Pairwise OutputPoller.Apart
  read : ∀ stream channel, roster.bindings.find? stream = some (.poller channel) →
    ∃ poller ∈ roster.pollers, ∃ queue ∈ poller.queues, queue.channel = channel
  foreign : ∀ emission : Emission, ∀ event ∈ emission.events roster.bindings,
    ∀ line, roster.line? event = some line → ∀ poller ∈ roster.pollers,
      line.stream ≠ poller.stream

/-- No consumer writes lines like this one. -/
def Roster.tells (roster : Roster) (line : Line) : Bool :=
  roster.pollers.all (·.stream ≠ line.stream)

/-- How far a replay has come that was fed some frames. Consumers have written what they observed,
and the other lines are of what listeners were told. -/
structure Proceeds (roster : Roster) (frames : List StampedFrame) (replay : Replay) : Prop where
  coupled : replay.session.Coupled
  rests : replay.session.Rests
  sized : replay.session.outlets.HasCapacity roster.room
  works : replay.session.state = .running → replay.session.engine.worker.isSome = true
  pollers : Consumer.pollers replay.consumers = roster.pollers
  speaks : replay.eventLine? = roster.line?
  attends : ∀ consumer ∈ replay.consumers, consumer.Attends roster.graph roster.room
    (Line.on consumer.poller.stream replay.lines) frames replay.session.engine
    replay.session.outlets
  told : ∃ seen, SessionEngine.Tells roster.graph roster.bindings seen frames
      replay.session.engine replay.session.outlets ∧
    replay.lines.filter roster.tells = seen.filterMap roster.line? ∧
    replay.runtimeErrors = seen.countP isFailure

variable {roster : Roster} {frames : List StampedFrame} {replay next : Replay}

theorem eventLine?_congr (layout : next.session.layout = replay.session.layout)
    (config : next.session.config = replay.session.config) :
    next.eventLine? = replay.eventLine? := by
  funext event
  cases event <;> simp only [eventLine?, layout, config]

theorem Proceeds.hasOwnQueues (proceeds : replay.Proceeds roster frames) (fair : roster.IsFair) :
    replay.HasOwnQueues := by
  intro consumer member
  have own := fair.own _ (proceeds.pollers ▸ Consumer.mem_pollers member)
  exact (consumer.poller.hasOwnQueues_withPending none).mp own

theorem Proceeds.collect (proceeds : replay.Proceeds roster frames) (fair : roster.IsFair) :
    replay.collect.Proceeds roster frames := by
  obtain ⟨seen, tells, lines, errors⟩ := proceeds.told
  let events := replay.session.outlets.events
  have foreign (line : Line) (member : line ∈ events.filterMap replay.eventLine?) :
      ∀ poller ∈ roster.pollers, line.stream ≠ poller.stream := by
    obtain ⟨event, told, same⟩ := List.mem_filterMap.mp member
    obtain ⟨emission, known⟩ := tells.mem_events told
    exact fair.foreign emission event known line (proceeds.speaks ▸ same)
  refine ⟨proceeds.coupled.withOutlets _, proceeds.rests.withOutlets rfl, proceeds.sized,
    proceeds.works, proceeds.pollers, proceeds.speaks, fun consumer member => ?_,
    seen ++ events, tells.taken, ?_, ?_⟩
  · have known : consumer.poller.withPending none ∈ roster.pollers :=
      proceeds.pollers ▸ Consumer.mem_pollers member
    have silent : Line.on consumer.poller.stream (events.filterMap replay.eventLine?) = [] := by
      refine Line.on_of_none fun line member same => ?_
      exact foreign line member _ known (by rw [same, OutputPoller.stream_withPending])
    change consumer.Attends _ _ (Line.on _ (replay.lines ++ events.filterMap _)) _ _ _
    rw [Line.on_append, silent, List.append_nil]
    exact (proceeds.attends consumer member).congr (fun _ _ => rfl) proceeds.sized
  · have own : (events.filterMap replay.eventLine?).filter roster.tells =
        events.filterMap roster.line? := by
      rw [← proceeds.speaks]
      refine List.filter_eq_self.mpr fun line member => List.all_eq_true.mpr fun poller known => ?_
      exact decide_eq_true (foreign line member poller known).symm
    change (replay.lines ++ events.filterMap replay.eventLine?).filter _ = _
    rw [List.filter_append, own, lines, List.filterMap_append]
  · change replay.runtimeErrors + events.countP isFailure = _
    rw [errors, List.countP_append]

theorem Proceeds.stepAll (proceeds : replay.Proceeds roster frames) (fair : roster.IsFair) :
    let stepped := Consumer.stepAll replay.consumers replay.session
    Proceeds roster frames { replay with
      consumers := stepped.1
      session := stepped.2.2
      lines := replay.lines ++ stepped.2.1 } := by
  intro stepped
  obtain ⟨seen, tells, lines, errors⟩ := proceeds.told
  have tended : replay.session.Tended stepped.2.2 := Consumer.tended_stepAll ..
  have looked := Consumer.lookedInto_stepAll replay.consumers replay.session
  have paired : ∀ poller ∈ Consumer.pollers replay.consumers, poller.IsPaired roster.graph :=
    proceeds.pollers ▸ fair.paired
  have apart : (Consumer.pollers replay.consumers).Pairwise OutputPoller.Apart :=
    proceeds.pollers ▸ fair.apart
  refine ⟨tended.coupled proceeds.coupled, tended.rests proceeds.rests,
    looked.hasCapacity proceeds.sized, fun running => ?_,
    (Consumer.pollers_stepAll ..).trans proceeds.pollers, ?_, ?_, seen, ?_, ?_, errors⟩
  · exact tended.works proceeds.coupled proceeds.works running
  · exact (eventLine?_congr tended.layout tended.config).trans proceeds.speaks
  · simp only [Line.on_append]
    exact Consumer.stepAll_attends fair.wellFormed paired apart
      (fun stream => Line.on stream replay.lines) proceeds.sized proceeds.attends
  · exact looked.keeps (SessionEngine.lasting_tells ..) proceeds.sized
      (fun tells _ _ => ⟨tells.listens, tells.worker, tells.whole⟩) tells
  · have silent : stepped.2.1.filter roster.tells = [] := by
      refine List.filter_eq_nil_iff.mpr fun line member tells => ?_
      obtain ⟨poller, known, same⟩ := Consumer.stream_of_mem_stepAll member
      rw [proceeds.pollers] at known
      exact of_decide_eq_true (List.all_eq_true.mp tells poller known) same.symm
    rw [List.filter_append, silent, List.append_nil]
    exact lines

theorem Proceeds.round (proceeds : replay.Proceeds roster frames) (fair : roster.IsFair) :
    replay.round.Proceeds roster frames := (proceeds.stepAll fair).collect fair

theorem Proceeds.pump (proceeds : replay.Proceeds roster frames) (fair : roster.IsFair) :
    replay.pump.Proceeds roster frames := by
  fun_induction Replay.pump replay with
  | case1 replay fewer ih => exact ih (proceeds.round fair)
  | case2 replay still => exact proceeds.round fair

theorem Proceeds.catchUp (proceeds : replay.Proceeds roster frames) (fair : roster.IsFair) :
    replay.catchUp.Proceeds roster frames := (proceeds.collect fair).pump fair

/-- What lasts of all consumers and listeners while the engine takes frames and works. -/
structure Roster.Holds (roster : Roster) (consumers : List Consumer) (lines : List Line)
    (seen : List Event) (frames : List StampedFrame) (engine : SessionEngine)
    (outlets : Outlets) : Prop where
  sized : outlets.HasCapacity roster.room
  attends : ∀ consumer ∈ consumers, consumer.Attends roster.graph roster.room
    (Line.on consumer.poller.stream lines) frames engine outlets
  tells : SessionEngine.Tells roster.graph roster.bindings seen frames engine outlets

theorem Roster.IsFair.lasting_holds (fair : roster.IsFair) {consumers : List Consumer}
    (own : Consumer.pollers consumers = roster.pollers) (lines : List Line)
    (seen : List Event) : Service.Lasting (roster.Holds consumers lines seen) := by
  have lasting (consumer : Consumer) (member : consumer ∈ consumers) (told : List Line) :
      Service.Lasting (consumer.Attends roster.graph roster.room told) := by
    have paired := fair.paired _ (own ▸ Consumer.mem_pollers member)
    exact Consumer.lasting_attends fair.wellFormed
      ((consumer.poller.isPaired_withPending none).mp paired) roster.room told
  have tells := SessionEngine.lasting_tells roster.graph roster.bindings seen
  refine ⟨fun holds metrics => ?_, fun holds run => ?_, fun holds works run input => ?_,
    fun {frames engine outlets} holds => ?_⟩
  · exact ⟨holds.sized, fun consumer member =>
      (lasting consumer member _).counted (holds.attends consumer member) metrics,
      tells.counted holds.tells metrics⟩
  · exact ⟨holds.sized, fun consumer member =>
      (lasting consumer member _).withRun (holds.attends consumer member) run,
      tells.withRun holds.tells run⟩
  · exact ⟨holds.sized, fun consumer member =>
      (lasting consumer member _).accept (holds.attends consumer member) works run input,
      tells.accept holds.tells works run input⟩
  · exact ⟨holds.sized.of_fittings (FrontEngine.fittings_advance engine outlets),
      fun consumer member =>
        (lasting consumer member _).advance (holds.attends consumer member),
      tells.advance holds.tells⟩

/-- A frame that a session takes, and what comes of it at once. -/
theorem Proceeds.feedAt (proceeds : replay.Proceeds roster frames) (fair : roster.IsFair)
    {input : StampedFrame} {session : Session SessionEngine}
    (fed : replay.session.feedAt input = (.ok (), session)) (count : Nat) :
    Proceeds roster (frames ++ [input]) { replay with session, fed := count } := by
  obtain ⟨seen, tells, lines, errors⟩ := proceeds.told
  have step : replay.session.Step (.feedAt input) _ session :=
    Session.step_of_perform (by rw [Session.perform, fed]; rfl)
  have works := step.works proceeds.coupled proceeds.works
  obtain ⟨running, run, rfl⟩ := Session.exists_of_feedAt proceeds.coupled fed
  have lasting := fair.lasting_holds proceeds.pollers replay.lines seen
  have holds := lasting.advance (lasting.counted (lasting.accept
    ⟨proceeds.sized, proceeds.attends, tells⟩ (proceeds.works running) run input)
    replay.session.outlets.countFed.metrics)
  exact ⟨proceeds.coupled.step step, Session.rests_settle _, holds.sized, works, proceeds.pollers,
    proceeds.speaks, holds.attends, seen, holds.tells, lines, errors⟩

/-- The end of a run: what was fed is worked off. -/
theorem Proceeds.stop (proceeds : replay.Proceeds roster frames) (fair : roster.IsFair)
    (running : replay.session.state = .running) :
    Proceeds roster frames { replay with session := replay.session.stop } := by
  obtain ⟨seen, tells, lines, errors⟩ := proceeds.told
  have coupled : replay.session.stop.Coupled :=
    proceeds.coupled.step replay.session.stop_step
  have stopped : replay.session.stop.state = .stopped := Session.state_of_stop (.inr running)
  obtain ⟨run, same⟩ := Session.stop_eq_settle proceeds.coupled running
  have lasting := fair.lasting_holds proceeds.pollers replay.lines seen
  have holds := lasting.advance (lasting.withRun (lasting.advance (lasting.withRun
    ⟨proceeds.sized, proceeds.attends, tells⟩ (some run))) none)
  rw [same] at coupled stopped ⊢
  refine ⟨coupled, Session.rests_settle _, holds.sized, fun running => ?_, proceeds.pollers,
    proceeds.speaks, holds.attends, seen, holds.tells, lines, errors⟩
  exact absurd (stopped.symm.trans running) (by decide)

/-- Once consumers have caught up, the engine does not wait for them. -/
theorem Proceeds.not_isHeldUp_pump (proceeds : replay.Proceeds roster frames)
    (fair : roster.IsFair) : ¬ replay.pump.session.IsHeldUp := by
  fun_induction Replay.pump replay with
  | case1 replay fewer ih => exact ih (proceeds.round fair)
  | case2 replay stuck =>
      obtain ⟨seen, tells, _⟩ := proceeds.told
      obtain ⟨same, stuck, _⟩ :=
        round_stuck (proceeds.hasOwnQueues fair) proceeds.rests.settle_eq stuck
      have free : ¬ replay.session.IsHeldUp := by
        refine Consumer.not_isHeldUp_of_stuck fair.wellFormed (proceeds.pollers ▸ fair.paired)
          proceeds.sized (fun stream => Line.on stream replay.lines) proceeds.attends
          (fun worker found stream channel observed => ?_) stuck
        obtain ⟨_, _, alike, _⟩ := tells.worker worker found
        rw [alike] at observed
        exact proceeds.pollers ▸ fair.read stream channel observed
      rintro ⟨worker, found, held⟩
      rw [same] at found held
      exact free ⟨worker, found, held.of_channels rfl⟩

theorem Proceeds.not_isHeldUp_catchUp (proceeds : replay.Proceeds roster frames)
    (fair : roster.IsFair) : ¬ replay.catchUp.session.IsHeldUp :=
  (proceeds.collect fair).not_isHeldUp_pump fair

/-- When everything is written that was fed, the lines of every consumer are those of all that
there was to observe, and the others are of all that there was to tell. -/
theorem Proceeds.lines_of_isWritten (proceeds : replay.Proceeds roster frames)
    (written : replay.IsWritten)
    (declared : ∀ poller ∈ roster.pollers,
      roster.graph.outputStreams.find? poller.stream = some poller.task.payload) :
    let events := (roster.graph.emissionsFrom 0 frames).flatMap (Emission.events roster.bindings)
    (∀ consumer ∈ replay.consumers, consumer.error? = none) ∧
      (∀ poller ∈ roster.pollers, Line.on poller.stream replay.lines =
        poller.lines (poller.answers roster.graph 0 frames)) ∧
      replay.lines.filter roster.tells = events.filterMap roster.line? ∧
      replay.runtimeErrors = events.countP isFailure := by
  intro events
  have ended (consumer : Consumer) (member : consumer ∈ replay.consumers) :
      consumer.ending = some (.ok ()) ∧ Line.on consumer.poller.stream replay.lines =
        consumer.poller.lines (consumer.poller.answers roster.graph 0 frames) := by
    have known : consumer.poller.withPending none ∈ roster.pollers :=
      proceeds.pollers ▸ Consumer.mem_pollers member
    have kind := declared _ known
    rw [OutputPoller.stream_withPending, OutputPoller.task_withPending] at kind
    cases proceeds.attends consumer member with
    | goes goes =>
        have done := written.ended consumer member
        rw [goes] at done
        contradiction
    | ended ends _ tells => exact ⟨ends, tells⟩
    | failed _ _ undeclared => exact absurd kind undeclared
  refine ⟨fun consumer member => ?_, fun poller member => ?_, ?_⟩
  · rw [Consumer.error?, (ended consumer member).1]
  · rw [← proceeds.pollers] at member
    obtain ⟨consumer, known, rfl⟩ := List.mem_map.mp member
    rw [OutputPoller.stream_withPending, OutputPoller.lines_withPending,
      OutputPoller.answers_withPending]
    exact (ended consumer known).2
  · obtain ⟨seen, tells, lines, errors⟩ := proceeds.told
    have all : seen = events := by
      have whole := tells.whole
      rw [written.silent, ScriptedEngine.owed, written.idle, List.append_nil] at whole
      exact (List.append_nil seen).symm.trans whole
    exact all ▸ ⟨lines, errors⟩

end Replay

end FrameFlow
