import FrameFlow.Proofs.Session.Observing
import FrameFlow.Proofs.Session.Pipeline
import Mathlib.Logic.Function.Iterate

/-!
How a worker and a consumer come to an end. Once the input is closed there is always one of them
who can go on, and each step leaves less to do; what the consumer has observed then is every
presence of the run.
-/

namespace FrameFlow

namespace Pipeline

variable {graph : Graph} {capacity : Nat} {pipeline after : Pipeline}

/-- A bound for the steps that worker and consumer have ahead of them; an emission brings two
packets at most. -/
def work (pipeline : Pipeline) : Nat :=
  3 * pipeline.engine.stepsLeft +
    (pipeline.outlets.queue pipeline.poller.presence.channel).length +
    (pipeline.outlets.queue pipeline.poller.payload.channel).length +
    if pipeline.ended then 0 else 1

theorem length_on_le_one (emission : Emission) (stream : String) :
    (emission.on stream).length ≤ 1 := by
  cases emission with
  | fault fault => exact Nat.zero_le 1
  | packet other content =>
      rw [Emission.on]
      split
      · exact Nat.le_refl 1
      · exact Nat.zero_le 1

/-- Queues whose sending ends are gone keep nobody waiting. -/
theorem not_isBare_nobody (pipeline : Pipeline) : ¬ (pipeline.gate nobody).IsBare := by
  intro bare
  simp only [Gate.IsBare, gate, GatedPoller.gate, Outlets.inbox_nobody] at bare
  split at bare <;> exact absurd (congrArg Inbox.isOpen bare) Bool.false_ne_true

/-- After the end of the input there is always somebody who can go on. -/
theorem Sound.exists_runStep (sound : pipeline.Sound graph capacity)
    (wellFormed : graph.WellFormed)
    (pairs : graph.Pairs pipeline.poller.presence.stream pipeline.poller.payload.stream)
    (closed : pipeline.engine.isInputOpen = false) : ∃ after, RunStep pipeline after := by
  cases left : pipeline.engine.worker with
  | none =>
      have idle : pipeline.engine.worker.isSome ≠ true := by simp [left]
      exact ⟨_, .consumes (absurd · idle) pipeline.not_isBare_nobody⟩
  | some worker =>
      by_cases bare : (pipeline.gate fun _ => true).IsBare
      · refine Classical.byContradiction fun stuck => ?_
        have still := ScriptedEngine.advance_of_no_step fun after step =>
          stuck ⟨_, .works step⟩
        have stays : (pipeline.engine.advance SessionEngine.reaction pipeline.outlets).1.worker =
            some worker := by rw [still, left]
        rcases ScriptedEngine.advance_rests stays with held | ⟨_, opened⟩
        · rw [still] at held
          exact sound.not_isBare wellFormed pairs left (SessionEngine.holdsUp_of_isHeld held) _ bare
        · exact absurd (closed.symm.trans opened) Bool.false_ne_true
      · exact ⟨_, .consumes (fun _ => ⟨rfl, rfl⟩) bare⟩

/-- So a run that gets no more frames comes to its end, and the consumer hears of it. -/
theorem Sound.work_lt (sound : pipeline.Sound graph capacity) (unfinished : pipeline.ended = false)
    (step : RunStep pipeline after) : after.work < pipeline.work := by
  cases step with
  | @works next step =>
      have fewer : next.1.stepsLeft < pipeline.engine.stepsLeft := step.stepsLeft_lt
      have brought (poller : Poller) (supplied : poller.IsSupplied graph pipeline.frames.length
          pipeline.engine pipeline.outlets) :
          (next.2.queue poller.channel).length ≤
            (pipeline.outlets.queue poller.channel).length + 1 := by
        cases step with
        | begins found rested waiting => exact Nat.le_succ _
        | @emits _ _ worker emission rest middle found current emitted =>
            obtain ⟨_, owns, _⟩ := supplied.worker worker found
            obtain ⟨_, same⟩ := (owns.brings worker.sink).emit supplied.stands emitted
            have one := length_on_le_one emission poller.stream
            rw [same, List.length_append]
            omega
        | ends found idled closed => exact Nat.le_succ _
      have presences := brought _ sound.served.presence
      have payloads := brought _ sound.served.payload
      have same : ended { pipeline with engine := next.1, outlets := next.2 } = pipeline.ended :=
        rfl
      simp only [work, same]
      omega
  | @consumes isOpen opened bare =>
      obtain ⟨_, fewer, less, moves⟩ := sound.consume_spec opened bare
      have after_work : (pipeline.consume isOpen).work =
          3 * pipeline.engine.stepsLeft +
            ((pipeline.consume isOpen).outlets.queue pipeline.poller.presence.channel).length +
            ((pipeline.consume isOpen).outlets.queue pipeline.poller.payload.channel).length +
            if (pipeline.consume isOpen).ended then 0 else 1 := rfl
      rw [after_work, work, unfinished]
      rcases moves with taken | ended
      · split <;> simp only [Bool.false_eq_true, if_false] <;> omega
      · simp only [ended, Bool.false_eq_true, if_true, if_false]
        omega

theorem RunStep.engine_eq (step : RunStep pipeline after) :
    after.engine = { pipeline.engine with worker := after.engine.worker } := by
  cases step with
  | works step => exact step.engine_eq
  | consumes opened bare => rfl

theorem Sound.exists_ended (sound : pipeline.Sound graph capacity)
    (wellFormed : graph.WellFormed)
    (pairs : graph.Pairs pipeline.poller.presence.stream pipeline.poller.payload.stream)
    (closed : pipeline.engine.isInputOpen = false) :
    ∃ after, Reaches pipeline after ∧ after.frames = pipeline.frames ∧ after.ended = true := by
  induction ahead : pipeline.work using Nat.strongRecOn generalizing pipeline with
  | ind number ih =>
      cases finished : pipeline.ended with
      | true => exact ⟨pipeline, .refl, rfl, finished⟩
      | false =>
          obtain ⟨next, step⟩ := sound.exists_runStep wellFormed pairs closed
          have less := sound.work_lt finished step
          have reached : Reaches pipeline next := .single (.inr step)
          obtain ⟨presence, payload⟩ := reached.pollers
          have still : next.engine.isInputOpen = false := by
            rw [step.engine_eq]
            exact closed
          obtain ⟨after, onward, frames, ended⟩ := ih _ (ahead ▸ less)
            (sound.reaches wellFormed pairs reached) (by rw [presence, payload]; exact pairs)
            still rfl
          have same : next.frames = pipeline.frames := by cases step <;> rfl
          exact ⟨after, reached.trans onward, frames.trans same, ended⟩

theorem Sound.exists_observed (sound : pipeline.Sound graph capacity)
    (wellFormed : graph.WellFormed)
    (pairs : graph.Pairs pipeline.poller.presence.stream pipeline.poller.payload.stream) :
    let presences := graph.packetsOn pipeline.poller.presence.stream 0 pipeline.frames
    let payloads := graph.packetsOn pipeline.poller.payload.stream 0 pipeline.frames
    ∃ observed : List Gated,
      observed.map Gated.timestamp = presences.map (·.timestamp) ∧
        observed.map (·.packet?.isSome) = presences.map Packet.signals ∧
        observed.filterMap Gated.packet? = payloads ∧
        pipeline.answers = andThen (.ok .closed) (observed.map fun gated => .ok (.ready gated))
          pipeline.answers.length ∧
        (pipeline.ended = true → observed.length < pipeline.answers.length) := by
  obtain ⟨observed, judged, timestamps, present, paid⟩ := pairs.exists_observed wellFormed 0
    pipeline.frames pipeline.poller.presence.stream pipeline.poller.payload.stream
  have first := (sound.served.yields [] fun _ => rfl).heard_eq
  rw [List.append_nil, Gate.polls_abandoned rfl rfl] at first
  have answers : pipeline.answers = andThen (.ok .closed)
      (observed.map fun gated => .ok (.ready gated)) pipeline.answers.length :=
    first.trans (congrArg (andThen (.ok .closed) · pipeline.answers.length) judged)
  refine ⟨observed, timestamps, present, paid, answers, fun ended => ?_⟩
  refine Nat.lt_of_not_le fun few => ?_
  rw [Pipeline.ended, answers, andThen_eq, List.length_map, Nat.sub_eq_zero_of_le few,
    List.replicate_zero, List.append_nil, List.any_eq_true] at ended
  obtain ⟨answer, member, closed⟩ := ended
  obtain ⟨gated, _, rfl⟩ := List.mem_map.mp (List.mem_of_mem_take member)
  contradiction

/-- Payloads of the kind that a task asks for can all be decoded. -/
theorem Sound.answerOf_ok (sound : pipeline.Sound graph capacity) (wellFormed : graph.WellFormed)
    (pairs : graph.Pairs pipeline.poller.presence.stream pipeline.poller.payload.stream)
    {poller : OutputPoller}
    (pays : graph.outputStreams.find? pipeline.poller.payload.stream = some poller.task.payload) :
    ∀ answer ∈ pipeline.answers, ∃ result, poller.answerOf answer = .ok result := by
  intro answer heard
  obtain ⟨observed, _, _, paid, answers, _⟩ := sound.exists_observed wellFormed pairs
  rw [answers, andThen_eq] at heard
  rcases List.mem_append.mp heard with told | ended
  · obtain ⟨gated, member, rfl⟩ := List.mem_map.mp (List.mem_of_mem_take told)
    cases gated with
    | absent timestamp => exact ⟨_, rfl⟩
    | present packet =>
        have brought : packet ∈ graph.packetsOn pipeline.poller.payload.stream 0
            pipeline.frames := paid ▸ List.mem_filterMap.mpr ⟨_, member, rfl⟩
        obtain ⟨output, decoded⟩ := Task.exists_decode
          (wellFormed.kind_of_mem_packetsOn pays brought) poller.stream
        exact ⟨_, by rw [OutputPoller.answerOf, OutputPoller.observe, decoded]; rfl⟩
  · obtain rfl := List.eq_of_mem_replicate ended
    exact ⟨_, rfl⟩

/-- What a worker and a consumer at the two queues of one poller have, whenever they are
looked at. -/
structure Flows (graph : Graph) (capacity : Nat) (presence payload : String)
    (poller : OutputPoller) (pipeline : Pipeline) : Prop where
  /-- The worker never waits for room in one queue while the consumer waits at the other. -/
  unblocked : ∀ worker isOpen, pipeline.engine.worker = some worker →
    SessionEngine.HoldsUp worker pipeline.outlets → ¬ (pipeline.gate isOpen).IsBare
  fits : pipeline.Fits capacity
  /-- A poll is one move of the consumer or two, and a poll that hears something goes on with
  the run. -/
  poll_eq : ∀ isOpen, pipeline.poll isOpen =
    if (pipeline.gate isOpen).read.1.isSome then pipeline.consume isOpen
    else (pipeline.consume isOpen).consume isOpen
  polls : ∀ isOpen,
    (pipeline.engine.worker.isSome = true →
      isOpen pipeline.poller.presence.channel = true ∧
        isOpen pipeline.poller.payload.channel = true) →
    saysNothing (pipeline.poller.poll isOpen pipeline.outlets).1 = false →
    Reaches pipeline (pipeline.poll isOpen)
  /-- Without more frames somebody can go on until the consumer hears the end, and not for
  ever. -/
  goesOn : pipeline.engine.isInputOpen = false → ∃ after, RunStep pipeline after
  work_lt : pipeline.ended = false →
    ∀ after, RunStep pipeline after → after.work < pipeline.work
  ends : pipeline.engine.isInputOpen = false →
    ∃ after, Reaches pipeline after ∧ after.frames = pipeline.frames ∧ after.ended = true
  /-- Every presence is observed once, in order, and the true ones with all payloads. -/
  observes : ∃ observed : List Gated,
    let presences := graph.packetsOn presence 0 pipeline.frames
    let payloads := graph.packetsOn payload 0 pipeline.frames
    observed.map Gated.timestamp = presences.map (·.timestamp) ∧
      observed.map (·.packet?.isSome) = presences.map Packet.signals ∧
      observed.filterMap Gated.packet? = payloads ∧
      pipeline.answers = andThen (.ok .closed)
        (observed.map fun gated => .ok (.ready gated)) pipeline.answers.length ∧
      (pipeline.ended = true → observed.length < pipeline.answers.length)
  /-- No pair is broken, and no packet is of an unexpected kind. -/
  heard : ∀ answer ∈ pipeline.answers, ∃ result, answer = .ok result
  decodes : graph.outputStreams.find? payload = some poller.task.payload →
    ∀ answer ∈ pipeline.answers, ∃ result, poller.answerOf answer = .ok result

theorem Sound.heard (sound : pipeline.Sound graph capacity) (wellFormed : graph.WellFormed)
    (pairs : graph.Pairs pipeline.poller.presence.stream pipeline.poller.payload.stream) :
    ∀ answer ∈ pipeline.answers, ∃ result, answer = .ok result := by
  intro answer heard
  obtain ⟨observed, _, _, _, answers, _⟩ := sound.exists_observed wellFormed pairs
  rw [answers, andThen_eq] at heard
  rcases List.mem_append.mp heard with told | ended
  · obtain ⟨gated, _, rfl⟩ := List.mem_map.mp (List.mem_of_mem_take told)
    exact ⟨_, rfl⟩
  · obtain rfl := List.eq_of_mem_replicate ended
    exact ⟨_, rfl⟩

theorem Sound.flows (sound : pipeline.Sound graph capacity) (wellFormed : graph.WellFormed)
    (pairs : graph.Pairs pipeline.poller.presence.stream pipeline.poller.payload.stream)
    (poller : OutputPoller) :
    pipeline.Flows graph capacity pipeline.poller.presence.stream pipeline.poller.payload.stream
      poller where
  unblocked _ isOpen found held := sound.not_isBare wellFormed pairs found held isOpen
  fits := sound.fits
  poll_eq := sound.poll_eq
  polls _ opened heard := sound.reaches_poll opened heard
  goesOn closed := sound.exists_runStep wellFormed pairs closed
  work_lt unfinished _ step := sound.work_lt unfinished step
  ends closed := sound.exists_ended wellFormed pairs closed
  observes := sound.exists_observed wellFormed pairs
  heard := sound.heard wellFormed pairs
  decodes pays := sound.answerOf_ok wellFormed pairs pays

/-- The worker goes as far as it can, and then the consumer polls. -/
def turn (pipeline : Pipeline) : Pipeline :=
  let worked := pipeline.engine.advance SessionEngine.reaction pipeline.outlets
  poll { pipeline with engine := worked.1, outlets := worked.2 } fun _ => worked.1.worker.isSome

theorem Sound.reaches_turn (sound : pipeline.Sound graph capacity)
    (wellFormed : graph.WellFormed)
    (pairs : graph.Pairs pipeline.poller.presence.stream pipeline.poller.payload.stream)
    (heard : ∀ answer ∈ pipeline.turn.answers, saysNothing answer = false) :
    Reaches pipeline pipeline.turn := by
  obtain ⟨works, worked⟩ := sound.advance wellFormed pairs
  exact works.trans (worked.reaches_poll (fun works => ⟨works, works⟩)
    (heard _ (List.mem_append_right _ (List.mem_singleton_self _))))

theorem Sound.reaches_turns (sound : pipeline.Sound graph capacity)
    (wellFormed : graph.WellFormed)
    (pairs : graph.Pairs pipeline.poller.presence.stream pipeline.poller.payload.stream)
    (number : Nat)
    (heard : ∀ answer ∈ (turn^[number] pipeline).answers, saysNothing answer = false) :
    Reaches pipeline (turn^[number] pipeline) := by
  induction number with
  | zero => exact .refl
  | succ number ih =>
      rw [Function.iterate_succ_apply'] at heard ⊢
      have before := ih fun answer member => heard answer (List.mem_append_left _ member)
      obtain ⟨presence, payload⟩ := before.pollers
      exact before.trans ((sound.reaches wellFormed pairs before).reaches_turn wellFormed
        (by rw [presence, payload]; exact pairs) heard)

/-- The caller feeds frames and then closes the input, if all of this is accepted. -/
def given (stream : String) : List StampedFrame → Pipeline → Option Pipeline
  | [], pipeline =>
      (pipeline.engine.closeInput stream).toOption.map fun engine => { pipeline with engine }
  | input :: rest, pipeline =>
      (pipeline.engine.addPacket stream input).toOption.bind fun engine =>
        given stream rest { pipeline with engine, frames := pipeline.frames ++ [input] }

theorem reaches_given {stream : String} {frames : List StampedFrame}
    (accepted : pipeline.given stream frames = some after) : Reaches pipeline after := by
  induction frames generalizing pipeline with
  | nil =>
      obtain ⟨engine, closed, rfl⟩ := Option.map_eq_some_iff.mp accepted
      exact .single (.inl (.closes (eq_ok_of_toOption closed)))
  | cons input rest ih =>
      obtain ⟨engine, added, later⟩ := Option.bind_eq_some_iff.mp accepted
      exact .head (.inl (.feeds (eq_ok_of_toOption added))) (ih later)

end Pipeline

namespace Session

variable {session bound begun : Session SessionEngine} {port : Port} {presence : String}
  {poller : OutputPoller} {gated : GatedPoller} {graph : Graph} {capacity : Nat}

/-- Two queues that are bound to a gated poller, and no others that are bound to any, at the start
of a run. -/
theorem sound_of_launch {engine : SessionEngine} {outlets : Outlets}
    {bindings observers : StreamMap Binding} {sink : Option Unit} (pending : gated.pending = none)
    (apart : gated.presence.channel ≠ gated.payload.channel)
    (presence : gated.presence.IsBound bindings outlets)
    (payload : gated.payload.IsBound bindings outlets)
    (alike : ∀ stream, observers.find? stream = bindings.find? stream)
    (begins : engine.worker = some { graph, observers, sink })
    (alone : ∀ stream channel, bindings.find? stream = some (.poller channel) →
      stream = gated.presence.stream ∨ stream = gated.payload.stream)
    (sized : outlets.HasCapacity (some capacity)) :
    Pipeline.Sound graph capacity { engine, outlets, poller := gated } := by
  refine ⟨GatedPoller.isServed_of_launch pending apart presence payload alike begins, fun _ => ?_,
    ?_, ⟨0, ⟨.clamp 0, .black⟩, ?_⟩, sized, ⟨?_, ?_⟩, ?_⟩
  · rw [begins]
    rfl
  · intro worker found stream channel observed
    cases begins.symm.trans found
    rw [alike] at observed
    rcases alone stream channel observed with same | same
    · rw [(presence.owns stream).mpr same] at observed
      cases observed
      exact .inl rfl
    · rw [(payload.owns stream).mpr same] at observed
      cases observed
      exact .inr rfl
  · rw [ScriptedEngine.current_eq begins]
    exact List.nil_suffix
  · rw [presence.empty]
    exact Nat.zero_le _
  · rw [payload.empty]
    exact Nat.zero_le _
  · rw [Pipeline.Balanced, ScriptedEngine.current_eq begins]
    simp only [presence.empty, payload.empty, pending]
    rfl

/-- A gated poller that is bound right before its session starts, and is the only poller of
the session. -/
theorem sound_pipeline (coupled : session.Coupled) (settled : session.Settled)
    (made : session.HasMade) (sized : session.config.pollerCapacity = some capacity)
    (gates : port.presence = some presence) (apart : presence ≠ port.output)
    (binds : session.bindPoller port = (.ok poller, bound))
    (source : poller.source = .gated gated)
    (alone : ∀ stream channel, bound.bindings.bindings.find? stream = some (.poller channel) →
      stream = presence ∨ stream = port.output)
    (starts : bound.start = (.ok (), begun)) (loaded : bound.engine.graph = some graph) :
    graph.WellFormed ∧ gated.presence.stream = presence ∧ gated.payload.stream = port.output ∧
      Pipeline.Sound graph capacity
        { engine := begun.engine, outlets := begun.outlets, poller := gated } := by
  have step : session.Step (.bindPoller port) _ bound :=
    step_of_perform (by rw [perform, answered_snd, binds])
  obtain ⟨_, begunSettled, config, wellFormed, launched⟩ :=
    launched_of_step coupled settled step starts loaded
  obtain ⟨⟨observers, begins, alike⟩, opened, outlets, _, _, _⟩ := launched
  obtain ⟨other, bindings, queues, binding, rfl, rfl⟩ := exists_of_bindPoller gates binds
  cases source
  obtain ⟨payloadStream, presenceStream, pending, unlike, payloadBound, presenceBound⟩ :=
    made.isBound_bindGated apart binding
  have fitting := begunSettled.sized
  rw [config, sized] at fitting
  refine ⟨wellFormed, presenceStream, payloadStream, ?_⟩
  rw [outlets] at fitting ⊢
  rw [← presenceStream, ← payloadStream] at alone
  exact sound_of_launch pending unlike presenceBound payloadBound alike begins alone fitting

/-- A gated poller with queues of any size, and a script whose payloads go with its
presences. However the worker's steps and the moves of a consumer who always waits are
interleaved: never do both wait for each other, the queues keep within their size, nothing
but observations and the end is heard, and without more frames the end is heard after a
number of steps. Every presence is observed once, in the order of frames, the true ones with
all payloads; if these are of the kind that the task asks for, all of them can be decoded. -/
theorem observes_every_presence (task : Task) (layout : Layout) (config : SessionConfig)
    (actions : List Action) {pipeline : Pipeline}
    (sized : config.pollerCapacity = some capacity) (gates : port.presence = some presence)
    (binds : ((opened task layout config).after actions).bindPoller port = (.ok poller, bound))
    (source : poller.source = .gated gated)
    (alone : ∀ stream channel, bound.bindings.bindings.find? stream = some (.poller channel) →
      stream = presence ∨ stream = port.output)
    (starts : bound.start = (.ok (), begun)) (loaded : bound.engine.graph = some graph)
    (pairs : graph.Pairs presence port.output)
    (reached : Pipeline.Reaches
      { engine := begun.engine, outlets := begun.outlets, poller := gated } pipeline) :
    pipeline.Flows graph capacity presence port.output poller := by
  obtain ⟨wellFormed, presenceStream, payloadStream, begins⟩ :=
    sound_pipeline coupled_opened settled_opened hasMade_opened
      ((congrArg SessionConfig.pollerCapacity (config_after _ actions)).trans sized)
      gates pairs.apart binds source alone starts loaded
  obtain ⟨signals, pays⟩ := reached.pollers
  replace signals : pipeline.poller.presence.stream = presence :=
    (congrArg Poller.stream signals).trans presenceStream
  replace pays : pipeline.poller.payload.stream = port.output :=
    (congrArg Poller.stream pays).trans payloadStream
  have sound := begins.reaches wellFormed (by rw [presenceStream, payloadStream]; exact pairs)
    reached
  rw [← signals, ← pays] at pairs ⊢
  exact sound.flows wellFormed pairs poller

/-- Queues that are asked to hold nothing, and so hold one packet. A payload comes before its
presence, then a frame is absent, then a payload comes after its presence. -/
theorem observes_every_presence_both_orders :
    let source : GraphSource := .text ("\x7b\"output_streams\":" ++
      "\x7b\"seen\":\"presence\",\"found\":\"detections\"\x7d,\"frames\":[" ++
      "\x7b\"emit\":[\x7b\"stream\":\"found\",\"value\":\x7b\"detections\":[]\x7d\x7d," ++
      "\x7b\"stream\":\"seen\",\"value\":\x7b\"presence\":true\x7d\x7d]\x7d," ++
      "\x7b\"emit\":[\x7b\"stream\":\"seen\",\"value\":\x7b\"presence\":false\x7d\x7d]\x7d," ++
      "\x7b\"emit\":[\x7b\"stream\":\"seen\",\"value\":\x7b\"presence\":true\x7d\x7d," ++
      "\x7b\"stream\":\"found\",\"value\":\x7b\"detections\":[]\x7d\x7d]\x7d]\x7d")
    let session := (opened .detection [] { pollerCapacity := some 0 }).after [.configure source]
    let bound := (session.bindPoller { output := "found", presence := some "seen" }).2
    let begun := bound.start.2
    let gated : GatedPoller := ⟨⟨"found", 0⟩, ⟨"seen", 1⟩, none⟩
    let frame (micros : Int) : StampedFrame := ⟨.clamp micros, .black⟩
    let pipeline : Pipeline := { engine := begun.engine, outlets := begun.outlets, poller := gated }
    ∃ fed graph, pipeline.given "input_video" [frame 1, frame 2, frame 3] = some fed ∧
      bound.engine.graph = some graph ∧
      (Pipeline.turn^[4] fed).answers =
        [.ok (.ready (.present ⟨.clamp 1, .detections []⟩)), .ok (.ready (.absent (.clamp 2))),
          .ok (.ready (.present ⟨.clamp 3, .detections []⟩)), .ok .closed] ∧
      (Pipeline.turn^[4] fed).Flows graph 0 "seen" "found" ⟨.detection, .gated gated⟩ := by
  intro source session bound begun gated frame pipeline
  let graph := bound.engine.graph.getD {}
  let fed := (pipeline.given "input_video" [frame 1, frame 2, frame 3]).getD pipeline
  have facts : (session.bindPoller { output := "found", presence := some "seen" }).1.toOption =
        some ⟨.detection, .gated gated⟩ ∧ bound.start.1.toOption = some () ∧
      bound.engine.graph.isSome = true ∧
      (pipeline.given "input_video" [frame 1, frame 2, frame 3]).isSome = true ∧
      graph.outputStreams.find? "seen" = some .presence ∧
      graph.outputStreams.find? "found" = some .detections ∧
      graph.frames = [
        [⟨"found", .payload (.detections [])⟩, ⟨"seen", .payload (.presence true)⟩],
        [⟨"seen", .payload (.presence false)⟩],
        [⟨"seen", .payload (.presence true)⟩, ⟨"found", .payload (.detections [])⟩]] ∧
      bound.bindings.bindings.entries = [("found", .poller 0), ("seen", .poller 1)] ∧
      (Pipeline.turn^[4] fed).answers =
        [.ok (.ready (.present ⟨.clamp 1, .detections []⟩)), .ok (.ready (.absent (.clamp 2))),
          .ok (.ready (.present ⟨.clamp 3, .detections []⟩)), .ok .closed] := by
    decide +kernel
  obtain ⟨binds, starts, loaded, accepted, signals, pays, script, alone, answers⟩ := facts
  have graph_eq : bound.engine.graph = some graph := by
    obtain ⟨found, same⟩ := Option.isSome_iff_exists.mp loaded
    simp only [graph, same, Option.getD_some]
  have fed_eq : pipeline.given "input_video" [frame 1, frame 2, frame 3] = some fed := by
    obtain ⟨found, same⟩ := Option.isSome_iff_exists.mp accepted
    simp only [fed, same, Option.getD_some]
  have made : session.bindPoller { output := "found", presence := some "seen" } = (.ok _, bound) :=
    Prod.ext (eq_ok_of_toOption binds) rfl
  have started : bound.start = (.ok (), begun) := Prod.ext (eq_ok_of_toOption starts) rfl
  have lone : ∀ stream channel, bound.bindings.bindings.find? stream = some (.poller channel) →
      stream = "seen" ∨ stream = "found" := by
    intro stream channel found
    rw [StreamMap.find?, alone] at found
    by_cases first : stream = "found"
    · exact .inr first
    · by_cases second : stream = "seen"
      · exact .inl second
      · simp [Ne.symm first, Ne.symm second] at found
  have sized : session.config.pollerCapacity = some 0 :=
    congrArg SessionConfig.pollerCapacity (config_after _ [.configure source])
  obtain ⟨wellFormed, presenceStream, payloadStream, begins⟩ :=
    sound_pipeline coupled_opened settled_opened hasMade_opened sized rfl (by decide) made rfl
      lone started graph_eq
  have pairs : graph.Pairs "seen" "found" := by
    refine wellFormed.pairs_of_script (by decide) signals pays fun index => ?_
    have third : index % 3 = 0 ∨ index % 3 = 1 ∨ index % 3 = 2 := by omega
    rcases third with turn | turn | turn <;>
      simp [Graph.Emits, Graph.scripted, script, turn]
  have offered := Pipeline.reaches_given fed_eq
  obtain ⟨presence, payload⟩ := offered.pollers
  have reached := offered.trans ((begins.reaches wellFormed pairs offered).reaches_turns wellFormed
    (by rw [presence, payload]; exact pairs) 4 (by rw [answers]; decide))
  exact ⟨fed, graph, fed_eq, graph_eq, answers,
    observes_every_presence .detection [] { pollerCapacity := some 0 } [.configure source] rfl rfl
      made rfl lone started graph_eq pairs reached⟩

end Session

end FrameFlow
