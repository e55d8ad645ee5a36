import FrameFlow.Proofs.Graph.Acceptance
import FrameFlow.Proofs.Session.Launching
import FrameFlow.Proofs.Session.Pairing
import FrameFlow.Proofs.Session.Release

/-!
What a caller observes of a gated output in a whole run, frame by frame. A true presence
without a payload costs more than its own frame: it takes the payload of a later one.
-/

namespace FrameFlow

theorem eq_ok_of_toOption {ε α : Type} {result : Except ε α} {value : α}
    (same : result.toOption = some value) : result = .ok value := by
  cases result with
  | error error => contradiction
  | ok found => exact congrArg Except.ok (Option.some.inj same)

theorem andThen_map {β : Type} (f : α → β) (last : α) (answers : List α) (number : Nat) :
    (andThen last answers number).map f = andThen (f last) (answers.map f) number := by
  induction number generalizing answers with
  | zero => cases answers <;> rfl
  | succ number ih => cases answers <;> exact congrArg (_ :: ·) (ih _)

theorem Task.exists_decode {task : Task} {content : Payload} (typed : content.kind = task.payload)
    (stream : String) : ∃ output, task.decode stream content = .ok output := by
  obtain ⟨output, made⟩ := Option.isSome_iff_exists.mp ((task.marshal?_isSome content).mpr typed)
  exact ⟨output, by rw [Task.decode, made]⟩

/-- A frame is observed as absent whenever it says so. If it says that it is present and has a
payload, it is observed with that payload just if as many payloads as true presences came
before it. -/
theorem OutputPoller.count_judged_frames {poller : OutputPoller} {graph : Graph}
    {presence payload : String} (wellFormed : graph.WellFormed)
    (pays : graph.outputStreams.find? payload = some poller.task.payload)
    {frames : List StampedFrame}
    (ordered : frames.Pairwise fun earlier later => earlier.timestamp < later.timestamp)
    {index : Nat} {input : StampedFrame} (found : frames[index]? = some input) :
    let judged := poller.judged presence payload (graph.packetsOn presence 0 frames)
      (graph.packetsOn payload 0 frames)
    let earlier := frames.take index
    (graph.Emits presence index (.presence false) → judged.count ⟨input.timestamp, none⟩ = 1) ∧
      ∀ content, graph.Emits presence index (.presence true) →
        graph.Emits payload index content →
          ∃ output, poller.task.decode poller.stream content = .ok output ∧
            judged.count ⟨input.timestamp, some output⟩ =
              if (graph.packetsOn presence 0 earlier).countP Packet.signals =
                  (graph.packetsOn payload 0 earlier).length then 1 else 0 := by
  intro judged earlier
  have presences := wellFormed.increasing_packetsOn presence ordered 0
  have payloads := wellFormed.increasing_packetsOn payload ordered 0
  constructor
  · intro absent
    obtain ⟨later, split⟩ := wellFormed.packetsOn_split found absent
    simp only [judged]
    rw [split] at presences ⊢
    exact count_absent presences
  · intro content present paid
    obtain ⟨output, decoded⟩ :=
      Task.exists_decode (wellFormed.kind_of_emits pays paid) poller.stream
    obtain ⟨later, split⟩ := wellFormed.packetsOn_split found present
    obtain ⟨rest, paidSplit⟩ := wellFormed.packetsOn_split found paid
    refine ⟨output, decoded, ?_⟩
    simp only [judged]
    rw [split] at presences ⊢
    rw [paidSplit] at payloads ⊢
    exact count_present presences payloads decoded

/-- With nothing to come, the queues hold all that was not taken yet. -/
theorem GatedPoller.rest_of_idle {poller : GatedPoller} {engine : SessionEngine}
    (idle : engine.worker = none) (graph : Graph) (count : Nat) (outlets : Outlets) :
    poller.rest graph count [] engine outlets = poller.gate nobody outlets := by
  simp only [rest, sealed, gate, Poller.ahead, Poller.unsent_of_idle idle, List.append_nil,
    Outlets.inbox_nobody]

namespace Service

variable {graph : Graph} {task : Task} {gated : GatedPoller} {service : Service}

/-- What is observed of all packets of the frames that a session took. -/
def judged (graph : Graph) (presence payload : String) (service : Service) :
    List (Except SessionError (PollResult Gated)) :=
  Gate.judged presence payload (graph.packetsOn presence 0 service.frames)
    (graph.packetsOn payload 0 service.frames)

theorem Serves.heard_eq (serves : service.Serves graph task gated) :
    service.heard = andThen (.ok .closed)
      ((service.judged graph gated.presence.stream gated.payload.stream).map
        (OutputPoller.answerOf ⟨task, .gated gated⟩)) service.heard.length := by
  obtain ⟨_, _, _, _, pending, heard, _, answers, served⟩ := serves
  have first := (served.yields [] fun _ => rfl).heard_eq
  rw [List.append_nil, Gate.polls_abandoned rfl rfl] at first
  rw [answers, List.length_map]
  conv => lhs; rw [first]
  exact andThen_map ..

/-- When the engine is done, more polls go on with what was not heard yet. -/
theorem Serves.polls_eq (serves : service.Serves graph task gated)
    (coupled : service.session.Coupled) (idle : service.session.engine.worker = none)
    (number : Nat) :
    service.heard ++ Session.outputPolls number service.poller service.session =
      andThen (.ok .closed)
        ((service.judged graph gated.presence.stream gated.payload.stream).map
          (OutputPoller.answerOf ⟨task, .gated gated⟩)) (service.heard.length + number) := by
  obtain ⟨_, cleared, _, _, pending, heard, poller, answers, served⟩ := serves
  have released : service.session.Released := ⟨cleared, coupled.agrees.observers, idle⟩
  have own : service.poller.HasOwnQueues := poller ▸ served.apart
  have closed : ∀ channel, (service.session.outlets.inbox nobody channel).isOpen = false := by
    intro channel
    rw [Outlets.inbox_nobody]
  have later := served.yields [] (fun _ => rfl) number
  rw [List.append_nil, GatedPoller.rest_of_idle idle, Gate.polls_abandoned rfl rfl,
    Gate.polls_abandoned (closed _) (closed _)] at later
  have heardLater := congrArg (List.map (OutputPoller.answerOf ⟨task, .gated gated⟩)) later
  rw [List.map_append, andThen_map, andThen_map] at heardLater
  rw [released.outputPolls_eq own, answers, poller, List.length_map]
  exact heardLater.symm

/-- What a caller has observed after some more polls. -/
def received (service : Service) (number : Nat) : List Observation :=
  OutputPoller.observed
    (service.answers ++ Session.outputPolls number service.poller service.session)

theorem Serves.received_eq (serves : service.Serves graph task gated)
    (coupled : service.session.Coupled) (idle : service.session.engine.worker = none)
    (wellFormed : graph.WellFormed) {number : Nat} (enough : service.frames.length ≤ number) :
    service.received number =
      OutputPoller.judged ⟨task, .gated gated⟩ gated.presence.stream gated.payload.stream
        (graph.packetsOn gated.presence.stream 0 service.frames)
        (graph.packetsOn gated.payload.stream 0 service.frames) := by
  have known := wellFormed.length_packetsOn_le gated.presence.stream 0 service.frames
  rw [received, OutputPoller.observed_append, ← OutputPoller.observed_filter service.answers,
    ← OutputPoller.observed_append]
  change OutputPoller.observed (service.heard ++ _) = _
  rw [serves.polls_eq coupled idle, OutputPoller.observed_andThen]
  · rfl
  · rw [List.length_map, judged, Gate.length_judged]
    omega

end Service

namespace Session

variable {session bound begun : Session SessionEngine} {port : Port} {presence : String}
  {poller : OutputPoller} {graph : Graph}

theorem Launched.serves {gated : GatedPoller} (launched : Launched graph session begun)
    (pending : gated.pending = none)
    (apart : gated.presence.channel ≠ gated.payload.channel)
    (presence : gated.presence.IsBound session.bindings.bindings session.outlets)
    (payload : gated.payload.IsBound session.bindings.bindings session.outlets) (task : Task) :
    Service.Serves graph task gated { session := begun, poller := ⟨task, .gated gated⟩ } := by
  obtain ⟨observers, begins, alike⟩ := launched.worker
  refine ⟨fun _ => by rw [begins]; rfl, by rw [launched.bindings]; rfl, ?_, .nil, gated.pending,
    [], rfl, rfl, ?_⟩
  · change Bounds begun.lifecycle.lastTimestamp []
    rw [launched.unstamped]
    rfl
  · rw [launched.outlets]
    exact GatedPoller.isServed_of_launch pending apart presence payload alike begins

/-- A gated poller that is bound right before its session starts is supplied with both of its
streams. -/
theorem exists_serves (coupled : session.Coupled) (settled : session.Settled)
    (made : session.HasMade) (gates : port.presence = some presence)
    (apart : presence ≠ port.output)
    (binds : session.bindPoller port = (.ok poller, bound))
    (starts : bound.start = (.ok (), begun)) (loaded : bound.engine.graph = some graph) :
    begun.Coupled ∧ begun.Settled ∧ begun.config = session.config ∧ graph.WellFormed ∧
      ∃ gated : GatedPoller, poller = ⟨poller.task, .gated gated⟩ ∧
        gated.presence.stream = presence ∧ gated.payload.stream = port.output ∧
        Service.Serves graph poller.task gated { session := begun, poller } := by
  have step : session.Step (.bindPoller port) _ bound :=
    step_of_perform (by rw [perform, answered_snd, binds])
  obtain ⟨begunCoupled, begunSettled, config, wellFormed, launched⟩ :=
    launched_of_step coupled settled step starts loaded
  obtain ⟨gated, bindings, outlets, binding, rfl, rfl⟩ := exists_of_bindPoller gates binds
  obtain ⟨payloadStream, presenceStream, pending, unlike, payloadBound, presenceBound⟩ :=
    made.isBound_bindGated apart binding
  exact ⟨begunCoupled, begunSettled, config, wellFormed, gated, rfl, presenceStream, payloadStream,
    launched.serves pending unlike presenceBound payloadBound _⟩

/-- Frames are fed to a session, its gated poller is polled and the session is stopped, in any
order. What polls hear depends only on the frames. Once the engine is done, which a stop sees
to unless it has to wait for room in a queue, enough polls observe every frame that says that
it is absent. A frame that is present and has a payload is observed just if all frames before
it brought as many payloads as true presences. -/
theorem received_after (task : Task) (layout : Layout) (config : SessionConfig)
    (actions : List Action) {port : Port} {presence : String} {poller : OutputPoller}
    {bound begun : Session SessionEngine} {graph : Graph}
    (gates : port.presence = some presence)
    (binds : ((opened task layout config).after actions).bindPoller port = (.ok poller, bound))
    (starts : bound.start = (.ok (), begun)) (loaded : bound.engine.graph = some graph)
    (signals : graph.outputStreams.find? presence = some .presence)
    (pays : graph.outputStreams.find? port.output = some poller.task.payload)
    (uses : List Use) :
    let service := Service.after { session := begun, poller } uses
    service.heard = andThen (.ok .closed)
        ((service.judged graph presence port.output).map poller.answerOf) service.heard.length ∧
      (service.session.state = .stopped → config.pollerCapacity = none →
        service.session.engine.worker = none) ∧
      (service.session.engine.worker = none → ∀ number, service.frames.length ≤ number →
        ∀ index input, service.frames[index]? = some input →
          let received := service.received number
          let earlier := service.frames.take index
          (graph.Emits presence index (.presence false) →
            received.count ⟨input.timestamp, none⟩ = 1) ∧
          ∀ content, graph.Emits presence index (.presence true) →
            graph.Emits port.output index content →
              ∃ output, poller.task.decode port.output content = .ok output ∧
                received.count ⟨input.timestamp, some output⟩ =
                  if (graph.packetsOn presence 0 earlier).countP Packet.signals =
                      (graph.packetsOn port.output 0 earlier).length then 1 else 0) := by
  intro service
  have unlike : presence ≠ port.output := by
    rintro rfl
    cases kinds : poller.task <;> simp [kinds, Task.payload, signals] at pays
  obtain ⟨begunCoupled, begunSettled, begunConfig, wellFormed, gated, gatedPoller, rfl,
    payloadStream, serves⟩ := exists_serves coupled_opened
      settled_opened hasMade_opened gates unlike binds starts loaded
  obtain ⟨coupled, settled, serves⟩ := serves.after begunCoupled begunSettled uses
  rw [← payloadStream] at pays ⊢
  refine ⟨?_, fun stopped unbounded => ?_, fun idle number enough index input found => ?_⟩
  · have heard := serves.heard_eq
    rwa [← gatedPoller] at heard
  · have same : service.session.config = config :=
      (Service.config_after _ uses).trans (begunConfig.trans (config_after _ actions))
    exact settled.idle coupled (by rw [stopped]; decide) (by rw [same, unbounded])
  · intro received earlier
    have same : received = _ := serves.received_eq coupled idle wellFormed enough
    rw [← gatedPoller] at same
    rw [same]
    have stream : poller.stream = gated.payload.stream := by rw [gatedPoller]; rfl
    rw [← stream] at pays ⊢
    exact OutputPoller.count_judged_frames wellFormed pays serves.ordered found

/-- The first frame is present and its payload is lost. However often the caller polls, the
second one, which has both, is not observed either. -/
theorem received_after_lost :
    let source : GraphSource := .text ("\x7b\"output_streams\":" ++
      "\x7b\"seen\":\"presence\",\"found\":\"detections\"\x7d,\"frames\":[" ++
      "\x7b\"emit\":[\x7b\"stream\":\"seen\",\"value\":\x7b\"presence\":true\x7d\x7d]\x7d," ++
      "\x7b\"emit\":[\x7b\"stream\":\"seen\",\"value\":\x7b\"presence\":true\x7d\x7d," ++
      "\x7b\"stream\":\"found\",\"value\":\x7b\"detections\":[]\x7d\x7d]\x7d]\x7d")
    let session := (opened .detection [] {}).after [.configure source]
    let bound := (session.bindPoller { output := "found", presence := some "seen" }).2
    let poller : OutputPoller := ⟨.detection, .gated ⟨⟨"found", 0⟩, ⟨"seen", 1⟩, none⟩⟩
    let frame (micros : Int) : StampedFrame := ⟨.clamp micros, .black⟩
    let service := Service.after { session := bound.start.2, poller }
      [.feed (frame 1), .feed (frame 2), .stop]
    service.frames = [frame 1, frame 2] ∧ service.session.state = .stopped ∧
      ∀ number, 2 ≤ number →
        (service.received number).count ⟨.clamp 2, some (.detections [])⟩ = 0 := by
  intro source session bound poller frame service
  let graph := bound.engine.graph.getD {}
  have facts : (session.bindPoller { output := "found", presence := some "seen" }).1.toOption =
        some poller ∧ bound.start.1.toOption = some () ∧ bound.engine.graph.isSome = true ∧
      graph.outputStreams.find? "seen" = some .presence ∧
      graph.outputStreams.find? "found" = some .detections ∧
      ⟨"seen", .payload (.presence true)⟩ ∈ graph.scripted 1 ∧
      ⟨"found", .payload (.detections [])⟩ ∈ graph.scripted 1 ∧
      (graph.packetsOn "seen" 0 [frame 1]).countP Packet.signals = 1 ∧
      (graph.packetsOn "found" 0 [frame 1]).length = 0 ∧
      service.frames = [frame 1, frame 2] ∧ service.session.state = .stopped := by
    decide +kernel
  obtain ⟨binds, starts, loaded, signals, pays, present, paid, one, none, frames, stopped⟩ := facts
  have graph_eq : bound.engine.graph = some graph := by
    obtain ⟨found, same⟩ := Option.isSome_iff_exists.mp loaded
    simp only [graph, same, Option.getD_some]
  obtain ⟨_, done, observes⟩ := received_after .detection [] {} [.configure source] rfl
    (Prod.ext (eq_ok_of_toOption binds) rfl) (Prod.ext (eq_ok_of_toOption starts) rfl) graph_eq
    signals pays [.feed (frame 1), .feed (frame 2), .stop]
  refine ⟨frames, stopped, fun number enough => ?_⟩
  obtain ⟨_, second⟩ := observes (done stopped rfl) number (by rw [frames]; exact enough) 1
    (frame 2) (by rw [frames]; rfl)
  obtain ⟨output, decoded, count⟩ := second (.detections []) present paid
  obtain rfl : Output.detections [] = output := Except.ok.inj decoded
  have earlier : service.frames.take 1 = [frame 1] := by rw [frames]; rfl
  rw [earlier, one, none] at count
  exact count

end Session

end FrameFlow
