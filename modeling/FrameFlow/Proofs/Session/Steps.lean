import FrameFlow.Proofs.Session.Usage

/-!
What becomes of a session by an action. Whatever is asked and whoever refuses it, it is one
of a few steps, so what all sessions keep is shown for these.
-/

namespace FrameFlow

namespace Outlets

def withRejected (rejected : Tally String) (outlets : Outlets) : Outlets :=
  { outlets with metrics := { outlets.metrics with framesRejected := rejected } }

/-- New queues at most; nobody was told anything. -/
structure Extends (capacity : Option Nat) (before after : Outlets) : Prop where
  events : after.events = before.events
  channels : ∃ count,
    after.channels = before.channels ++ List.replicate count (.ofCapacity capacity)

/-- Packets may have left queues; nobody was told anything. -/
structure Eases (before after : Outlets) : Prop where
  events : after.events = before.events
  capacities : after.channels.map (·.capacity) = before.channels.map (·.capacity)

variable {before middle after : Outlets} {capacity : Option Nat}

theorem Extends.of_channels (events : after.events = before.events)
    (channels : after.channels = before.channels) : Extends capacity before after :=
  ⟨events, 0, by simpa using channels⟩

theorem Extends.refl (outlets : Outlets) : Extends capacity outlets outlets :=
  .of_channels rfl rfl

theorem Extends.trans (first : Extends capacity before middle)
    (second : Extends capacity middle after) : Extends capacity before after := by
  obtain ⟨few, added⟩ := first.channels
  obtain ⟨more, joined⟩ := second.channels
  refine ⟨second.events.trans first.events, few + more, ?_⟩
  rw [joined, added, List.append_assoc, List.replicate_append_replicate]

theorem extends_addChannel (outlets : Outlets) :
    Extends capacity outlets (outlets.addChannel capacity).2 :=
  ⟨rfl, 1, rfl⟩

theorem Eases.trans (first : Eases before middle) (second : Eases middle after) :
    Eases before after :=
  ⟨second.events.trans first.events, second.capacities.trans first.capacities⟩

theorem eases_modify (outlets : Outlets) (channel : ChannelId) {change : Channel → Channel}
    (kept : ∀ queue, (change queue).capacity = queue.capacity) :
    Eases outlets { outlets with channels := outlets.channels.modify channel change } := by
  refine ⟨rfl, List.ext_getElem? fun position => ?_⟩
  simp only [List.getElem?_map, List.getElem?_modify]
  cases outlets.channels[position]? with
  | none => rfl
  | some queue =>
      by_cases here : channel = position <;> simp [here, kept]

theorem eases_setPackets (outlets : Outlets) (channel : ChannelId) (packets : List Packet) :
    Eases outlets (outlets.setPackets channel packets) :=
  eases_modify outlets channel fun _ => rfl

theorem eases_detach (outlets : Outlets) (channel : ChannelId) :
    Eases outlets (outlets.detach channel) :=
  eases_modify outlets channel fun _ => rfl

end Outlets

section Polling

variable (isOpen : ChannelId → Bool) (outlets : Outlets)

theorem Poller.eases_poll (poller : Poller) :
    outlets.Eases (poller.poll isOpen outlets).2 :=
  outlets.eases_setPackets ..

theorem GatedPoller.eases_poll (poller : GatedPoller) :
    outlets.Eases (poller.poll isOpen outlets).2.2 :=
  (outlets.eases_setPackets ..).trans (Outlets.eases_setPackets ..)

theorem OutputPoller.eases_poll (poller : OutputPoller) :
    outlets.Eases (poller.poll isOpen outlets).2.2 := by
  obtain ⟨task, source⟩ := poller
  cases source with
  | plain source => exact source.eases_poll isOpen outlets
  | gated source => exact source.eases_poll isOpen outlets

theorem OutputPoller.eases_detach (poller : OutputPoller) :
    outlets.Eases (poller.detach outlets) := by
  obtain ⟨task, source⟩ := poller
  cases source with
  | plain source => exact outlets.eases_detach ..
  | gated source => exact (outlets.eases_detach ..).trans (Outlets.eases_detach ..)

end Polling

namespace BindingTable

variable {table after : BindingTable} {outlets last : Outlets} {stream : String}

theorem bindCallback_capacity {binding : Binding}
    (bound : table.bindCallback stream binding = .ok after) :
    after.capacity = table.capacity := by
  unfold bindCallback at bound
  split at bound
  · contradiction
  · cases bound
    rfl

theorem bindPoller_spec {poller : Poller}
    (bound : table.bindPoller stream outlets = .ok (poller, after, last)) :
    after.capacity = table.capacity ∧ outlets.Extends table.capacity last := by
  unfold bindPoller at bound
  split at bound
  · contradiction
  · cases bound
    exact ⟨rfl, outlets.extends_addChannel⟩

theorem bindGated_spec {presence : String} {poller : GatedPoller}
    (bound : table.bindGated stream presence outlets = .ok (poller, after, last)) :
    after.capacity = table.capacity ∧ outlets.Extends table.capacity last := by
  unfold bindGated at bound
  split at bound
  · contradiction
  · split at bound
    · contradiction
    · cases bound
      exact ⟨rfl, outlets.extends_addChannel.trans (Outlets.extends_addChannel _)⟩

end BindingTable

theorem Operation.mem_configure_states {state : SessionState} :
    state ∈ Operation.configure.states ↔ state = .unconfigured ∨ state = .stopped := by
  simp [Operation.states]

theorem SessionState.ne_running_of_mem {state : SessionState}
    (resting : state ∈ Operation.configure.states) : state ≠ .running := by
  rintro rfl
  contradiction

theorem SessionState.ne_configured_of_mem {state : SessionState}
    (resting : state ∈ Operation.configure.states) : state ≠ .configured := by
  rintro rfl
  contradiction

namespace Lifecycle

variable {lifecycle : Lifecycle} {timestamp : Timestamp}

theorem require_feed_eq_ok_iff : lifecycle.require .feed = .ok () ↔ lifecycle.state = .running := by
  by_cases running : lifecycle.state = .running <;> simp [require, Operation.states, running]

theorem checkStamp_eq_ok_iff :
    lifecycle.checkStamp timestamp = .ok () ↔
      lifecycle.state = .running ∧
        ∀ previous, lifecycle.lastTimestamp = some previous → previous < timestamp := by
  unfold checkStamp
  cases allowed : lifecycle.require .feed with
  | error error => simp [← require_feed_eq_ok_iff, allowed]
  | ok done =>
      have running := require_feed_eq_ok_iff.mp allowed
      cases last : lifecycle.lastTimestamp with
      | none => simp [running]
      | some previous =>
          by_cases stale : timestamp ≤ previous
          · have late : ¬ previous < timestamp := Int.not_lt.mpr stale
            simp [stale, late]
          · have later : previous < timestamp := Int.not_le.mp stale
            simp [running, stale, later]

theorem checkStamp_eq_error {error : SessionError} (running : lifecycle.state = .running)
    (refused : lifecycle.checkStamp timestamp = .error error) :
    ∃ previous, lifecycle.lastTimestamp = some previous ∧
      error = .outOfOrderFrame timestamp previous := by
  simp only [checkStamp, require_feed_eq_ok_iff.mpr running] at refused
  cases last : lifecycle.lastTimestamp with
  | none => simp [last] at refused
  | some previous =>
      simp only [last] at refused
      split at refused
      · cases refused
        exact ⟨previous, rfl, rfl⟩
      · contradiction

end Lifecycle

namespace Session

variable {ε : Type} [GraphEngine ε]

/-- Queues are looked into, and the engine goes on; more than once where somebody waits. -/
inductive Polled (session : Session ε) : Session ε → Prop
  | once {outlets} : session.outlets.Eases outlets →
      Polled session (settle { session with outlets })
  | again {middle : Session ε} {outlets} : Polled session middle →
      middle.outlets.Eases outlets → Polled session (settle { middle with outlets })

/-- What becomes of a session, and what callers are told, by an action. -/
inductive Step (session : Session ε) : Action → Answer → Session ε → Prop
  | rejected {action} (error : SessionError) (rejected : Tally String) :
      Step session action (.refused error)
        { session with outlets := session.outlets.withRejected rejected }
  | tended {action answer outlets} :
      session.outlets.Extends session.bindings.capacity outlets →
      answer.isRefusal = false → (∀ stamps, stampsAfter stamps (action, answer) = stamps) →
      Step session action answer { session with outlets }
  | misconfigured {source text error result engine} :
      session.state ∈ Operation.configure.states → source.load = .ok text →
      GraphEngine.load text session.engine = (result, engine) →
      Step session (.configure source) (.refused error) { session with engine }
  | configured {source text engine} :
      session.state ∈ Operation.configure.states → source.load = .ok text →
      GraphEngine.load text session.engine = (.ok (), engine) →
      GraphEngine.hasInput session.config.inputStream engine = true →
      Step session (.configure source) .done { session with
        engine
        graph := some text
        bindings := session.bindings.clear
        lifecycle := session.lifecycle.configured }
  | bound {action answer bindings outlets} :
      session.state = .configured → bindings.capacity = session.bindings.capacity →
      session.outlets.Extends session.bindings.capacity outlets →
      answer.isRefusal = false → (∀ stamps, stampsAfter stamps (action, answer) = stamps) →
      Step session action answer { session with bindings, outlets }
  | launched {engine} :
      session.state = .configured →
      launch session.bindings (GraphEngine.connectFaults session.engine) = (.ok (), engine) →
      Step session .start .done (settle { session with
        bindings := session.bindings.clear
        engine
        lifecycle := session.lifecycle.running })
  | aborted {status engine} :
      session.state = .configured →
      launch session.bindings (GraphEngine.connectFaults session.engine) =
        (.error status, engine) →
      Step session .start (.refused (.start status)) { session with
        bindings := session.bindings.clear
        engine := reload session.graph engine
        lifecycle := session.lifecycle.stopped }
  | withheld {action input status engine} :
      session.lifecycle.checkStamp input.timestamp = .ok () →
      GraphEngine.addPacket session.config.inputStream input session.engine =
        (.error status, engine) →
      Step session action (.refused (.feedRejected input.timestamp status)) { session with
        engine
        outlets := session.outlets.countRejected (.feedRejected input.timestamp status) }
  | fed {action answer input engine} :
      session.lifecycle.checkStamp input.timestamp = .ok () →
      GraphEngine.addPacket session.config.inputStream input session.engine =
        (.ok (), engine) →
      answer.isRefusal = false →
      (∀ stamps, stampsAfter stamps (action, answer) = stamps ++ [input.timestamp]) →
      Step session action answer (settle { session with
        engine
        lifecycle := session.lifecycle.accepted input.timestamp
        outlets := session.outlets.countFed })
  | drained {engine outlets} :
      session.state = .running →
      endRun session.config.inputStream session.engine session.outlets = (engine, outlets) →
      Step session .stop .done
        { session with engine, outlets, lifecycle := session.lifecycle.stopped }
  | dropped :
      session.state = .configured →
      Step session .stop .done { session with
        bindings := session.bindings.clear
        lifecycle := session.lifecycle.stopped }
  | polled {action answer after} :
      Polled session after → answer.isRefusal = false →
      (∀ stamps, stampsAfter stamps (action, answer) = stamps) →
      Step session action answer after

variable {session : Session ε}

theorem Polled.lifecycle {after : Session ε} (polled : session.Polled after) :
    after.lifecycle = session.lifecycle := by
  induction polled with
  | once eased => rfl
  | again before eased ih => exact ih

omit [GraphEngine ε] in
theorem state_of_require {operation : Operation}
    (allowed : session.lifecycle.require operation = .ok ()) :
    session.state ∈ operation.states := by
  unfold Lifecycle.require at allowed
  split at allowed
  · assumption
  · contradiction

theorem Polled.config {after : Session ε} (polled : session.Polled after) :
    after.config = session.config := by
  induction polled with
  | once eased => rfl
  | again before eased ih => exact ih

theorem Polled.layout {after : Session ε} (polled : session.Polled after) :
    after.layout = session.layout := by
  induction polled with
  | once eased => rfl
  | again before eased ih => exact ih

theorem Polled.task {after : Session ε} (polled : session.Polled after) :
    after.task = session.task := by
  induction polled with
  | once eased => rfl
  | again before eased ih => exact ih

omit [GraphEngine ε] in
theorem require_of_resting {operation : Operation}
    (resting : session.state ∈ Operation.configure.states) (other : operation ≠ .configure) :
    session.lifecycle.require operation = .error (.lifecycle operation session.state) := by
  have forbidden : session.lifecycle.state ∉ operation.states := by
    intro allowed
    have rest : session.lifecycle.state = .unconfigured ∨ session.lifecycle.state = .stopped :=
      Operation.mem_configure_states.mp resting
    rcases rest with rest | rest <;> cases operation <;>
      simp [Operation.states, rest] at allowed other
  rw [Lifecycle.require, if_neg forbidden]
  rfl

omit [GraphEngine ε] in
theorem state_of_checkStamp {timestamp : Timestamp}
    (checked : session.lifecycle.checkStamp timestamp = .ok ()) : session.state = .running :=
  (Lifecycle.checkStamp_eq_ok_iff.mp checked).1

theorem Step.refused {action : Action} (error : SessionError) :
    session.Step action (.refused error) session :=
  .rejected error session.outlets.metrics.framesRejected

theorem bindStream_step (session : Session ε) {operation : Operation} {action : Action}
    (stream : String) (binding : Binding) (needed : operation.states = [.configured])
    (silent : ∀ stamps, stampsAfter stamps (action, .done) = stamps) :
    let outcome := answered (fun () => .done) (session.bindStream operation stream binding)
    session.Step action outcome.1 outcome.2 := by
  unfold bindStream
  cases allowed : session.lifecycle.require operation with
  | error error => exact .refused error
  | ok done =>
      cases taken : session.bindings.bindCallback stream binding with
      | error error => exact .refused error
      | ok bindings =>
          have configured := state_of_require allowed
          rw [needed, List.mem_singleton] at configured
          exact .bound configured (BindingTable.bindCallback_capacity taken) (.refl _) rfl silent

theorem previewLatest_step (session : Session ε) :
    let outcome := session.perform .previewLatest
    session.Step .previewLatest outcome.1 outcome.2 := by
  simp only [perform, previewLatest, bindStream]
  cases allowed : session.lifecycle.require .bindPreview with
  | error error => exact .refused error
  | ok done =>
      cases taken : session.bindings.bindCallback session.config.previewStream
          (.latest session.outlets.addPlace.1) with
      | error error => exact .refused error
      | ok bindings =>
          have configured := state_of_require allowed
          exact .bound (by simpa [Operation.states] using configured)
            (BindingTable.bindCallback_capacity taken) (.of_channels rfl rfl) rfl fun _ => rfl

theorem pollStream_step (session : Session ε) (stream : String) :
    let outcome := session.perform (.pollStream stream)
    session.Step (.pollStream stream) outcome.1 outcome.2 := by
  simp only [perform, pollStream]
  cases allowed : session.lifecycle.require .pollStream with
  | error error => exact .refused error
  | ok done =>
      cases taken : session.bindings.bindPoller stream session.outlets with
      | error error => exact .refused error
      | ok bound =>
          obtain ⟨poller, bindings, outlets⟩ := bound
          obtain ⟨capacity, extended⟩ := BindingTable.bindPoller_spec taken
          have configured := state_of_require allowed
          exact .bound (by simpa [Operation.states] using configured) capacity extended rfl
            fun _ => rfl

theorem bindPoller_step (session : Session ε) (port : Port) :
    let outcome := session.perform (.bindPoller port)
    session.Step (.bindPoller port) outcome.1 outcome.2 := by
  simp only [perform, bindPoller]
  cases allowed : session.lifecycle.require .bindPoller with
  | error error => exact .refused error
  | ok done =>
      have configured : session.state = .configured := by
        simpa [Operation.states] using state_of_require allowed
      cases gating : port.presence with
      | none =>
          simp only
          cases taken : session.bindings.bindPoller port.output session.outlets with
          | error error => exact .refused error
          | ok bound =>
              obtain ⟨poller, bindings, outlets⟩ := bound
              obtain ⟨capacity, extended⟩ := BindingTable.bindPoller_spec taken
              exact .bound configured capacity extended rfl fun _ => rfl
      | some presence =>
          simp only
          cases taken : session.bindings.bindGated port.output presence session.outlets with
          | error error => exact .refused error
          | ok bound =>
              obtain ⟨poller, bindings, outlets⟩ := bound
              obtain ⟨capacity, extended⟩ := BindingTable.bindGated_spec taken
              exact .bound configured capacity extended rfl fun _ => rfl

theorem configure_step (session : Session ε) (source : GraphSource) :
    let outcome := session.perform (.configure source)
    session.Step (.configure source) outcome.1 outcome.2 := by
  simp only [perform, configure]
  cases allowed : session.lifecycle.require .configure with
  | error error => exact .refused error
  | ok done =>
      have resting := state_of_require allowed
      cases read : source.load with
      | error error => exact .refused error
      | ok text =>
          simp only
          cases loaded : GraphEngine.load text session.engine with
          | mk result engine =>
              cases result with
              | error status => exact .misconfigured resting read loaded
              | ok done =>
                  by_cases found :
                      GraphEngine.hasInput session.config.inputStream engine = true
                  · simp only [found, if_true]
                    exact .configured resting read loaded found
                  · simp only [found]
                    exact .misconfigured resting read loaded

theorem start_step (session : Session ε) :
    let outcome := session.perform .start
    session.Step .start outcome.1 outcome.2 := by
  simp only [perform, start]
  cases allowed : session.lifecycle.require .start with
  | error error => exact .refused error
  | ok done =>
      have configured : session.state = .configured := by
        simpa [Operation.states] using state_of_require allowed
      cases begun : launch session.bindings (GraphEngine.connectFaults session.engine) with
      | mk result engine =>
          cases result with
          | error status => exact .aborted configured begun
          | ok done => exact .launched configured begun

/-- The step of feeding a frame, whichever way its stamp was found. -/
theorem fed_step (session : Session ε) {action : Action} {granted : Unit → Answer}
    (input : StampedFrame) (allows : (granted ()).isRefusal = false)
    (records : ∀ stamps,
      stampsAfter stamps (action, granted ()) = stamps ++ [input.timestamp]) :
    let outcome := answered granted (session.feedAt input)
    session.Step action outcome.1 outcome.2 := by
  simp only [feedAt]
  cases checked : session.lifecycle.checkStamp input.timestamp with
  | error error =>
      exact .rejected error (session.outlets.metrics.framesRejected.bump error.label)
  | ok done =>
      cases given : GraphEngine.addPacket session.config.inputStream input session.engine with
      | mk result engine =>
          cases result with
          | error status => exact .withheld checked given
          | ok done => exact .fed checked given allows records

theorem feed_step (session : Session ε) (frame : Frame) (now : Timestamp) :
    let outcome := session.perform (.feed frame now)
    session.Step (.feed frame now) outcome.1 outcome.2 := by
  have step := @fed_step ε _ session (.feed frame now)
    (fun () => .stamped (session.lifecycle.stamp now))
    ⟨session.lifecycle.stamp now, frame⟩ rfl fun _ => rfl
  simp only [perform, feed]
  cases fed : session.feedAt ⟨session.lifecycle.stamp now, frame⟩ with
  | mk result after =>
      rw [fed] at step
      cases result with
      | error error => exact step
      | ok done => exact step

theorem stop_step (session : Session ε) :
    let outcome := session.perform .stop
    session.Step .stop outcome.1 outcome.2 := by
  simp only [perform, stop]
  cases state : session.state with
  | running => exact .drained state rfl
  | configured => exact .dropped state
  | unconfigured => exact .tended (.refl _) rfl fun _ => rfl
  | stopped => exact .tended (.refl _) rfl fun _ => rfl

theorem poll_polled (session : Session ε) (poller : OutputPoller) :
    session.Polled (session.poll poller).2.2 :=
  .once (poller.eases_poll ..)

theorem awaitOutput_polled (session : Session ε) (poller : OutputPoller) :
    session.Polled (session.awaitOutput poller).2.2 := by
  have first := session.poll_polled poller
  unfold awaitOutput
  split
  · rename_i next waiting polled
    rw [polled] at first
    exact .again first (next.eases_poll ..)
  · exact first

theorem perform_step (session : Session ε) (action : Action) :
    session.Step action (session.perform action).1 (session.perform action).2 := by
  cases action with
  | configure source => exact session.configure_step source
  | bindCallback port listener => exact session.bindStream_step _ _ rfl fun _ => rfl
  | observeStream stream listener => exact session.bindStream_step _ _ rfl fun _ => rfl
  | bindPreview listener => exact session.bindStream_step _ _ rfl fun _ => rfl
  | previewLatest => exact session.previewLatest_step
  | bindPoller port => exact session.bindPoller_step port
  | pollStream stream => exact session.pollStream_step stream
  | listenForErrors listener => exact .tended (.of_channels rfl rfl) rfl fun _ => rfl
  | start => exact session.start_step
  | feed frame now => exact session.feed_step frame now
  | feedAt input => exact session.fed_step input rfl fun _ => rfl
  | stop => exact session.stop_step
  | poll poller => exact .polled (session.poll_polled poller) rfl fun _ => rfl
  | fill poller buffer => exact .polled (session.awaitOutput_polled poller) rfl fun _ => rfl
  | release poller => exact .polled (.once (poller.eases_detach _)) rfl fun _ => rfl
  | pollPackets poller => exact .polled (.once (poller.eases_poll ..)) rfl fun _ => rfl
  | releasePackets poller => exact .polled (.once (Outlets.eases_detach ..)) rfl fun _ => rfl
  | lookAt place => exact .tended (.refl _) rfl fun _ => rfl
  | take place => exact .tended (.of_channels rfl rfl) rfl fun _ => rfl

theorem step_of_perform {next : Session ε} {action : Action}
    (same : (session.perform action).2 = next) :
    session.Step action (session.perform action).1 next :=
  same ▸ session.perform_step action

theorem Step.config {next : Session ε} {action : Action} {answer : Answer}
    (step : session.Step action answer next) : next.config = session.config := by
  cases step with
  | polled polled granted silent => exact polled.config
  | _ => rfl

theorem config_after (session : Session ε) (actions : List Action) :
    (session.after actions).config = session.config := by
  induction actions generalizing session with
  | nil => rfl
  | cons action rest ih => exact (ih _).trans (session.perform_step action).config

theorem Step.task {next : Session ε} {action : Action} {answer : Answer}
    (step : session.Step action answer next) : next.task = session.task := by
  cases step with
  | polled polled granted silent => exact polled.task
  | _ => rfl

theorem task_after (session : Session ε) (actions : List Action) :
    (session.after actions).task = session.task := by
  induction actions generalizing session with
  | nil => rfl
  | cons action rest ih => exact (ih _).trans (session.perform_step action).task

theorem Step.resting {next : Session ε} {action : Action} {answer : Answer}
    (step : session.Step action answer next)
    (resting : session.state ∈ Operation.configure.states)
    (other : ∀ source, action ≠ .configure source) :
    next.state ∈ Operation.configure.states := by
  have idle := SessionState.ne_running_of_mem resting
  have unconfigured := SessionState.ne_configured_of_mem resting
  cases step with
  | rejected error rejected => exact resting
  | tended extended granted silent => exact resting
  | misconfigured state read loaded => exact absurd rfl (other _)
  | configured state read loaded found => exact absurd rfl (other _)
  | bound configured capacity extended granted silent => exact absurd configured unconfigured
  | launched configured begun => exact absurd configured unconfigured
  | aborted configured begun => exact absurd configured unconfigured
  | withheld checked given => exact resting
  | fed checked given granted records => exact absurd (state_of_checkStamp checked) idle
  | drained running ended => exact absurd running idle
  | dropped configured => exact absurd configured unconfigured
  | polled polled granted silent =>
      rw [Session.state, polled.lifecycle]
      exact resting

end Session

end FrameFlow
