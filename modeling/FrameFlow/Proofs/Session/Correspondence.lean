import FrameFlow.Proofs.Session.Calling
import FrameFlow.Proofs.Session.Hearing
import FrameFlow.Proofs.Session.Pairs
import Mathlib.Data.List.Forall2

/-!
Callbacks against pollers. For the same frames a poller hears what a callback of the same port
sees, packet by packet, although the one decodes packets when they are polled and the other when
they are emitted.
-/

namespace FrameFlow

/-- A poll answers what a callback saw: the same output, or an error with the text of the
fault. -/
inductive Sighting.Matches (task : Task) (stream : String) :
    Sighting → Except SessionError (PollResult Observation) → Prop
  | called (timestamp : Timestamp) (output : Output) :
      Matches task stream (.called timestamp output) (.ok (.ready ⟨timestamp, some output⟩))
  | faulted (fault : Fault) (found : PayloadKind) :
      fault.status.message = (SessionError.unexpectedPayload stream task.payload found).message →
      Matches task stream (.faulted fault)
        (.error (.unexpectedPayload stream task.payload found))

theorem Callback.see_matches (callback : Callback) {poller : OutputPoller}
    (task : poller.task = callback.task) (stream : poller.stream = callback.port.output)
    (packet : Packet) :
    (callback.see packet).Matches callback.task callback.port.output (poller.answerTo packet) := by
  rw [see, OutputPoller.answerTo, OutputPoller.answerOf, OutputPoller.observe, task, stream,
    Task.decode]
  cases callback.task.marshal? packet.payload with
  | some output => exact .called packet.timestamp output
  | none => exact .faulted _ packet.payload.kind rfl

/-- The outputs that polls observe, with their timestamps. -/
def OutputPoller.outputs (answers : List (Except SessionError (PollResult Observation))) :
    List (Timestamp × Output) :=
  (observed answers).filterMap fun observation =>
    observation.value.map (observation.timestamp, ·)

/-- If all packets can be decoded, the outputs observed of them are what a callback is called
with. -/
theorem Callback.map_see_eq (callback : Callback) {poller : OutputPoller}
    (task : poller.task = callback.task) (stream : poller.stream = callback.port.output)
    {observed : List Gated}
    (typed : ∀ packet ∈ observed.filterMap Gated.packet?,
      packet.payload.kind = callback.task.payload) :
    (observed.filterMap Gated.packet?).map callback.see =
      (OutputPoller.outputs (observed.map fun gated =>
        poller.answerOf (.ok (.ready gated)))).map fun call => .called call.1 call.2 := by
  induction observed with
  | nil => rfl
  | cons gated rest ih =>
      cases gated with
      | absent timestamp => exact ih typed
      | present packet =>
          obtain ⟨typed, others⟩ := List.forall_mem_cons.mp typed
          obtain ⟨output, decoded⟩ := Task.exists_decode typed callback.port.output
          have sees : callback.see packet = .called packet.timestamp output := by
            rw [see, decoded]
          have answers : poller.answerOf (.ok (.ready (.present packet))) =
              .ok (.ready ⟨packet.timestamp, some output⟩) := by
            rw [OutputPoller.answerOf, OutputPoller.observe, task, stream, decoded]
            rfl
          change callback.see packet :: _ = _
          rw [sees, List.map_cons, answers, ih others]
          rfl

/-- What was heard so far, and what more polls answer, are these answers and then the end. -/
def Service.TellsAll (answers : List (Except SessionError (PollResult Observation)))
    (service : Service) : Prop :=
  ∀ number, service.heard ++ Session.outputPolls number service.poller service.session =
    andThen (.ok .closed) answers (service.heard.length + number)

namespace Session

variable {session bound begun : Session SessionEngine} {graph : Graph} {port : Port}
  {listener errors : Listener} {poller : OutputPoller}

theorem exists_of_bindCallback (binds : session.bindCallback port listener = (.ok (), bound)) :
    ∃ bindings, bound = { session with bindings } ∧
      bindings.bindings.find? port.output = some (.output session.task port.slot listener) := by
  simp only [bindCallback, bindStream] at binds
  split at binds
  · simp at binds
  · unfold BindingTable.bindCallback at binds
    cases checked : session.bindings.check port.output .callback with
    | error error => simp [checked] at binds
    | ok done =>
        simp only [checked] at binds
        cases binds
        exact ⟨_, rfl, by rw [StreamMap.find?_insert, if_pos rfl]⟩

theorem exists_of_bindPlain (made : session.HasMade) (ungated : port.presence = none)
    (binds : session.bindPoller port = (.ok poller, bound)) :
    ∃ source bindings outlets, poller = ⟨session.task, .plain source⟩ ∧
      bound = { session with bindings, outlets } ∧ source.stream = port.output ∧
      source.IsBound bindings.bindings outlets := by
  simp only [bindPoller, ungated, BindingTable.bindPoller] at binds
  split at binds
  · simp at binds
  · cases checked : session.bindings.check port.output .poller with
    | error error => simp [checked] at binds
    | ok done =>
        simp only [checked] at binds
        cases binds
        exact ⟨_, _, _, rfl, rfl, rfl, BindingTable.Within.isBound made port.output⟩

theorem Launched.calls {callback : Callback} (launched : Launched graph session begun)
    (bound : callback.IsBound session.bindings.bindings)
    (listens : session.outlets.errorListener = some callback.errors) (poller : OutputPoller) :
    Service.Calls graph callback (callback.seen session.outlets) { session := begun, poller } := by
  obtain ⟨observers, begins, alike⟩ := launched.worker
  refine ⟨fun _ => by rw [begins]; rfl, ⟨?_, fun worker found => ?_, ?_⟩⟩
  · rw [launched.outlets]
    exact listens
  · cases begins.symm.trans found
    exact ⟨rfl, ⟨by rw [alike]; exact bound.own,
      fun stream task same => bound.alone stream task (by rw [← alike]; exact same)⟩, rfl, rfl⟩
  · rw [launched.outlets, ScriptedEngine.owed, begins]
    rfl

theorem Launched.hears {source : Poller} (launched : Launched graph session begun)
    (bound : source.IsBound session.bindings.bindings session.outlets) (task : Task) :
    Service.Hears graph task source { session := begun, poller := ⟨task, .plain source⟩ } := by
  obtain ⟨observers, begins, alike⟩ := launched.worker
  obtain ⟨supplied, ahead⟩ := bound.isSupplied alike begins
  rw [← launched.outlets] at supplied ahead
  refine ⟨fun _ => by rw [begins]; rfl, rfl, ⟨supplied, fun later _ number => ?_⟩⟩
  simp only [List.length_nil, ahead]
  exact congrArg (andThen _ _) (Nat.zero_add number).symm

variable {task : Task} {layout : Layout} {config : SessionConfig}

/-- In a session that has stopped, with queues without a bound, everything has arrived. -/
theorem idle_after {poller : OutputPoller} {uses : List Use}
    (coupled : (Service.after { session := begun, poller } uses).session.Coupled)
    (settled : (Service.after { session := begun, poller } uses).session.Settled)
    (unbounded : begun.config.pollerCapacity = none)
    (stopped : (Service.after { session := begun, poller } uses).session.state = .stopped) :
    (Service.after { session := begun, poller } uses).session.engine.worker = none :=
  settled.idle coupled (by rw [stopped]; decide) (by rw [Service.config_after]; exact unbounded)

/-- The callback of a session that has stopped saw all packets of the frames. -/
theorem seen_after (actions : List Action) (unbounded : config.pollerCapacity = none)
    (binds : ((opened task layout config).after actions).bindCallback port listener =
      (.ok (), bound))
    (alone : ∀ stream kind, bound.bindings.bindings.find? stream =
      some (.output kind port.slot listener) → stream = port.output)
    (listens : bound.outlets.errorListener = some errors)
    (starts : bound.start = (.ok (), begun)) (loaded : bound.engine.graph = some graph)
    (uses : List Use) :
    let callback : Callback := { task, port, listener, errors }
    let called := Service.after { session := begun, poller } uses
    called.session.state = .stopped → graph.WellFormed ∧
      callback.seen called.session.outlets = callback.seen bound.outlets ++
        (graph.packetsOn port.output 0 called.frames).map callback.see := by
  intro callback called stopped
  have step : ((opened task layout config).after actions).Step (.bindCallback port listener) _
      bound := step_of_perform (by rw [perform, answered_snd, binds])
  obtain ⟨begunCoupled, begunSettled, begunConfig, wellFormed, launched⟩ :=
    launched_of_step coupled_opened settled_opened step starts loaded
  obtain ⟨bindings, rfl, own⟩ := exists_of_bindCallback binds
  rw [task_after] at own
  obtain ⟨coupled, settled, calls⟩ := Service.after_of_use begunCoupled begunSettled
    (@Launched.calls _ _ _ callback launched ⟨own, alone⟩ listens poller)
    (fun calls coupled _ next => calls.use coupled next) uses
  have idle := idle_after coupled settled (by rw [begunConfig, config_after]; exact unbounded)
    stopped
  have brought := calls.calls.brought
  rw [ScriptedEngine.owed, idle, callback.sightings_emissionsFrom] at brought
  exact ⟨wellFormed, (List.append_nil _).symm.trans brought⟩

/-- The plain poller of a session that has stopped tells of all packets of the frames. -/
theorem tellsAll_after (actions : List Action) (unbounded : config.pollerCapacity = none)
    (ungated : port.presence = none)
    (binds : ((opened task layout config).after actions).bindPoller port = (.ok poller, bound))
    (starts : bound.start = (.ok (), begun)) (loaded : bound.engine.graph = some graph)
    (uses : List Use) :
    let service := Service.after { session := begun, poller } uses
    service.session.state = .stopped →
      poller.task = task ∧ poller.stream = port.output ∧
        service.TellsAll ((graph.packetsOn port.output 0 service.frames).map poller.answerTo) := by
  intro service stopped
  have step : ((opened task layout config).after actions).Step (.bindPoller port) _ bound :=
    step_of_perform (by rw [perform, answered_snd, binds])
  obtain ⟨begunCoupled, begunSettled, begunConfig, _, launched⟩ :=
    launched_of_step coupled_opened settled_opened step starts loaded
  obtain ⟨source, bindings, outlets, rfl, rfl, stream, isBound⟩ := exists_of_bindPlain
    hasMade_opened ungated binds
  obtain ⟨coupled, settled, hears⟩ := Service.after_of_use begunCoupled begunSettled
    (launched.hears isBound _) (fun hears coupled _ next => hears.use coupled next) uses
  have idle := idle_after coupled settled (by rw [begunConfig, config_after]; exact unbounded)
    stopped
  refine ⟨task_after .., stream, fun number => ?_⟩
  rw [← stream]
  exact hears.polls_eq coupled (by rw [stopped]; decide) idle number

/-- The gated poller of a session that has stopped tells of all payloads of the frames, if
these go with the presences. -/
theorem tellsAll_after_of_pairs (actions : List Action) (unbounded : config.pollerCapacity = none)
    {presence : String} (gates : port.presence = some presence)
    (pairs : graph.Pairs presence port.output)
    (binds : ((opened task layout config).after actions).bindPoller port = (.ok poller, bound))
    (starts : bound.start = (.ok (), begun)) (loaded : bound.engine.graph = some graph)
    (uses : List Use) :
    let service := Service.after { session := begun, poller } uses
    service.session.state = .stopped →
      poller.task = task ∧ poller.stream = port.output ∧
        ∃ observed : List Gated,
          observed.filterMap Gated.packet? = graph.packetsOn port.output 0 service.frames ∧
          service.TellsAll (observed.map fun gated => poller.answerOf (.ok (.ready gated))) := by
  intro service stopped
  obtain ⟨begunCoupled, begunSettled, begunConfig, wellFormed, gated, gatedPoller, rfl,
    payloadStream, serves⟩ := exists_serves coupled_opened settled_opened hasMade_opened
      gates pairs.apart binds starts loaded
  obtain ⟨coupled, settled, serves⟩ := serves.after begunCoupled begunSettled uses
  have idle := idle_after coupled settled (by rw [begunConfig, config_after]; exact unbounded)
    stopped
  obtain ⟨_, _, _, _, same, _⟩ := exists_of_bindPoller gates binds
  obtain ⟨observed, judged, _, _, payloads⟩ := pairs.exists_observed wellFormed 0 service.frames
    gated.presence.stream gated.payload.stream
  refine ⟨by rw [same]; exact task_after .., by rw [gatedPoller]; exact payloadStream, observed,
    payloads, fun number => ?_⟩
  have polls := serves.polls_eq coupled idle number
  rw [← gatedPoller] at polls
  rw [polls, Service.judged, payloadStream]
  rw [payloadStream] at judged
  rw [judged, List.map_map]
  rfl

/-- Two sessions for one task play one graph. One of them calls a listener with the outputs of a
port and with no others of that slot; the other one queues them for a poller, without a bound
for its queues. Both are used in any way until they are stopped, and take the same frames; a
poll that waits is one that is repeated while it says nothing. Through the callback every packet
of the frames is seen. Without a presence stream the poller hears the same, packet by packet,
and then the end: the same output at the same timestamp, or an error with the text of the fault.
Behind a presence stream that goes with the payloads it observes just the outputs that the
listener was called with. -/
theorem polls_tell_of_calls (task : Task) (layout : Layout) (config : SessionConfig)
    (unbounded : config.pollerCapacity = none) (actions others : List Action)
    {queued polled : Session SessionEngine} {other : OutputPoller}
    (calls : ((opened task layout config).after actions).bindCallback port listener =
      (.ok (), bound))
    (alone : ∀ stream kind, bound.bindings.bindings.find? stream =
      some (.output kind port.slot listener) → stream = port.output)
    (listens : bound.outlets.errorListener = some errors)
    (starts : bound.start = (.ok (), begun)) (loaded : bound.engine.graph = some graph)
    (polls : ((opened task layout config).after others).bindPoller port = (.ok poller, queued))
    (follows : queued.start = (.ok (), polled)) (reloaded : queued.engine.graph = some graph)
    (uses turns : List Use) :
    let callback : Callback := { task, port, listener, errors }
    let called := Service.after { session := begun, poller := other } uses
    let service := Service.after { session := polled, poller } turns
    let seen := (graph.packetsOn port.output 0 called.frames).map callback.see
    called.session.state = .stopped → service.session.state = .stopped →
      called.frames = service.frames →
      callback.seen called.session.outlets = callback.seen bound.outlets ++ seen ∧
        (port.presence = none → ∃ results,
          List.Forall₂ (Sighting.Matches task port.output) seen results ∧
            service.TellsAll results) ∧
        ∀ presence, port.presence = some presence →
          graph.outputStreams.find? presence = some .presence →
          graph.outputStreams.find? port.output = some task.payload →
          (∀ index, (∃ content, graph.Emits port.output index content) ↔
            graph.Emits presence index (.presence true)) →
          ∃ results, seen = (OutputPoller.outputs results).map
              (fun call => .called call.1 call.2) ∧ service.TellsAll results := by
  intro callback called service seen stopped ended same
  obtain ⟨wellFormed, saw⟩ :=
    seen_after actions unbounded calls alone listens starts loaded uses stopped
  have packets : graph.packetsOn port.output 0 called.frames =
      graph.packetsOn port.output 0 service.frames := by
    rw [same]
  refine ⟨saw, ?_, ?_⟩
  · intro ungated
    obtain ⟨rfl, stream, tells⟩ :=
      tellsAll_after others unbounded ungated polls follows reloaded turns ended
    refine ⟨_, ?_, tells⟩
    rw [← packets, List.forall₂_map_left_iff, List.forall₂_map_right_iff, List.forall₂_same]
    intro packet _
    exact callback.see_matches rfl stream packet
  · intro presence gates signals pays paired
    have apart : presence ≠ port.output := by
      rintro rfl
      cases kinds : task <;> simp [kinds, Task.payload, signals] at pays
    have pairs := wellFormed.pairs_of_script apart signals pays paired
    obtain ⟨own, stream, observed, payloads, tells⟩ :=
      tellsAll_after_of_pairs others unbounded gates pairs polls follows reloaded turns ended
    rw [← packets] at payloads
    have typed : ∀ packet ∈ observed.filterMap Gated.packet?,
        packet.payload.kind = task.payload := by
      intro packet member
      rw [payloads] at member
      exact wellFormed.kind_of_mem_packetsOn pays member
    refine ⟨_, ?_, tells⟩
    simp only [seen, ← payloads]
    exact callback.map_see_eq own stream typed

/-- The stream has presences where detections are asked for. The listener is never called, but
told of a fault; the poller hears an error with the text of that fault, and then the end. -/
theorem polls_tell_of_calls_refused :
    let source : GraphSource := .text ("\x7b\"output_streams\":\x7b\"found\":\"presence\"\x7d," ++
      "\"frames\":[\x7b\"emit\":[\x7b\"stream\":\"found\",\"value\":" ++
      "\x7b\"presence\":true\x7d\x7d]\x7d]\x7d")
    let session := (opened .detection [] {}).after [.configure source, .listenForErrors 0]
    let port : Port := { output := "found" }
    let poller : OutputPoller := ⟨.detection, .plain ⟨"found", 0⟩⟩
    let input : StampedFrame := ⟨.clamp 1, .black⟩
    let called := Service.after { session := (session.bindCallback port 0).2.start.2, poller }
      [.feed input, .stop]
    let service := Service.after { session := (session.bindPoller port).2.start.2, poller }
      [.feed input, .poll, .stop]
    ∃ fault error, Callback.seen ⟨.detection, port, 0, 0⟩ called.session.outlets =
        [.faulted fault] ∧ error.message = fault.status.message ∧
      service.TellsAll [.error error] := by
  intro source session port poller input called service
  let bound := (session.bindCallback port 0).2
  let queued := (session.bindPoller port).2
  let fault : Fault := ⟨some "found", some (.clamp 1), ⟨.invalidArgument,
    (SessionError.unexpectedPayload "found" .detections .presence).message⟩⟩
  have facts : (session.bindCallback port 0).1.toOption = some () ∧
      (session.bindPoller port).1.toOption = some poller ∧
      bound.start.1.toOption = some () ∧ queued.start.1.toOption = some () ∧
      bound.bindings.bindings.entries = [("found", .output .detection .primary 0)] ∧
      bound.outlets.errorListener = some 0 ∧ bound.outlets.events = [] ∧
      session.engine.graph.isSome = true ∧
      called.frames = service.frames ∧
      called.session.state = .stopped ∧ service.session.state = .stopped ∧
      Callback.seen ⟨.detection, port, 0, 0⟩ called.session.outlets = [.faulted fault] := by
    decide +kernel
  obtain ⟨calls, polls, starts, follows, entries, listens, untold, loads, frames, stopped, ended,
    saw⟩ := facts
  obtain ⟨graph, loaded⟩ := Option.isSome_iff_exists.mp loads
  have called_ok : session.bindCallback port 0 = (.ok (), bound) :=
    Prod.ext (eq_ok_of_toOption calls) rfl
  have queued_ok : session.bindPoller port = (.ok poller, queued) :=
    Prod.ext (eq_ok_of_toOption polls) rfl
  obtain ⟨_, boundSame, _⟩ := exists_of_bindCallback called_ok
  obtain ⟨_, _, _, _, queuedSame, _⟩ := exists_of_bindPlain hasMade_opened rfl queued_ok
  have alone : ∀ stream kind, bound.bindings.bindings.find? stream =
      some (.output kind .primary 0) → stream = "found" := by
    intro stream kind found
    rw [StreamMap.find?, entries] at found
    by_cases own : stream = "found"
    · exact own
    · simp [Ne.symm own] at found
  obtain ⟨same, plain, _⟩ := @polls_tell_of_calls bound bound.start.2 graph port 0 0 poller
    .detection [] {} rfl [.configure source, .listenForErrors 0]
    [.configure source, .listenForErrors 0] queued queued.start.2 poller called_ok alone listens
    (Prod.ext (eq_ok_of_toOption starts) rfl) (by rw [boundSame]; exact loaded) queued_ok
    (Prod.ext (eq_ok_of_toOption follows) rfl) (by rw [queuedSame]; exact loaded)
    [.feed input, .stop] [.feed input, .poll, .stop] stopped ended frames
  have past : Callback.seen ⟨.detection, port, 0, 0⟩ bound.outlets = [] := by
    rw [Callback.seen, untold]
    rfl
  rw [past, List.nil_append, saw] at same
  obtain ⟨results, alike, tells⟩ := plain rfl
  rw [← same] at alike
  cases alike with
  | cons first rest =>
      cases rest
      cases first with
      | faulted _ kind message => exact ⟨fault, _, saw, message.symm, tells⟩

end Session

end FrameFlow
