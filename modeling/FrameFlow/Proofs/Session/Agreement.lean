import FrameFlow.Proofs.Session.Front
import FrameFlow.Proofs.Session.Steps

/-!
A session and its engine each keep a state, a last timestamp and bindings. Whatever callers
do, the two stay in step, so the engine never refuses a frame that the session let pass.
-/

namespace FrameFlow

open FrontEngine (behind IsSound)

namespace Session

variable {ε : Type}

/-- What a session keeps and what its engine keeps tell the same. -/
structure Agrees (session : Session ε) (engine : SessionEngine) : Prop where
  observers : engine.observers = .empty
  running : session.state = .running ↔ engine.isRunning = true
  run : ∀ run, engine.run = some run →
    run.inputOpen = true ∧ run.lastTimestamp = session.lifecycle.lastTimestamp ∧
      ∃ graph, engine.graph = some graph ∧ graph.inputStream = session.config.inputStream
  configured : session.state = .configured →
    session.lifecycle.lastTimestamp = none ∧
      ∃ text graph, session.graph = some text ∧ Graph.parse text = .ok graph ∧
        engine.graph = some graph ∧ graph.inputStream = session.config.inputStream
  cleared : session.state ≠ .configured → session.bindings.bindings = .empty

theorem Agrees.resting {session : Session ε} {engine : SessionEngine}
    (agrees : session.Agrees engine) (state : session.state ≠ .running) : engine.run = none := by
  cases running : engine.run with
  | none => rfl
  | some run =>
      have busy : engine.isRunning = true := by rw [ScriptedEngine.isRunning, running]; rfl
      exact absurd (agrees.running.mpr busy) state

theorem Agrees.of_resting {session : Session ε} {engine : SessionEngine}
    (state : session.state = .unconfigured ∨ session.state = .stopped)
    (run : engine.run = none) (observers : engine.observers = .empty)
    (cleared : session.bindings.bindings = .empty) : session.Agrees engine where
  observers := observers
  running := by
    rw [ScriptedEngine.isRunning, run]
    rcases state with state | state <;> simp [state]
  run := by simp [run]
  configured := by rcases state with state | state <;> simp [state]
  cleared _ := cleared

theorem Agrees.kept {session other : Session ε} {engine : SessionEngine}
    (agrees : session.Agrees engine) (lifecycle : other.lifecycle = session.lifecycle)
    (bindings : other.bindings = session.bindings) (graph : other.graph = session.graph)
    (config : other.config = session.config) : other.Agrees engine where
  observers := agrees.observers
  running := by
    rw [Session.state, lifecycle]
    exact agrees.running
  run := by
    rw [lifecycle, config]
    exact agrees.run
  configured := by
    rw [Session.state, lifecycle, graph, config]
    exact agrees.configured
  cleared := by
    rw [Session.state, lifecycle, bindings]
    exact agrees.cleared

theorem Agrees.withWorker {session : Session ε} {engine : SessionEngine}
    (agrees : session.Agrees engine) (worker : Option (Worker Binding Unit)) :
    session.Agrees { engine with worker } :=
  ⟨agrees.observers, agrees.running, agrees.run, agrees.configured, agrees.cleared⟩

section Coupling

variable [FrontEngine ε] {session next : Session ε} {action : Action} {answer : Answer}

structure Coupled (session : Session ε) : Prop where
  sound : IsSound session.engine
  agrees : session.Agrees (behind session.engine)

theorem coupled_fresh {engine : ε} (sound : IsSound engine) (run : (behind engine).run = none)
    (observers : (behind engine).observers = .empty) (task : Task) (layout : Layout)
    (config : SessionConfig) : (fresh engine task layout config).Coupled :=
  ⟨sound, .of_resting (.inl rfl) run observers rfl⟩

theorem Coupled.settle (coupled : session.Coupled) : session.settle.Coupled := by
  refine ⟨FrontEngine.advance_sound _ coupled.sound, ?_⟩
  have worked := FrontEngine.behind_advance_eq session.engine session.outlets
  change Agrees _ (behind (GraphEngine.advance session.engine session.outlets).1)
  rw [worked]
  exact (coupled.agrees.withWorker _).kept rfl rfl rfl rfl

theorem Coupled.withOutlets (coupled : session.Coupled) (outlets : Outlets) :
    Coupled { session with outlets } :=
  ⟨coupled.sound, coupled.agrees.kept rfl rfl rfl rfl⟩

theorem Coupled.polled (coupled : session.Coupled) (polled : session.Polled next) :
    next.Coupled := by
  induction polled with
  | once eased => exact (coupled.withOutlets _).settle
  | again before eased ih => exact (ih.withOutlets _).settle

theorem Coupled.misconfigure {text : String} {result : Except Status Unit} {engine : ε}
    (coupled : session.Coupled) (resting : session.state ∈ Operation.configure.states)
    (loaded : GraphEngine.load text session.engine = (result, engine)) :
    Coupled { session with engine } := by
  have agrees := coupled.agrees
  have run := agrees.resting (SessionState.ne_running_of_mem resting)
  have cleared := agrees.cleared (SessionState.ne_configured_of_mem resting)
  obtain ⟨sound, graph, observers, same, unobserved⟩ :=
    FrontEngine.load_spec text coupled.sound
  rw [loaded] at sound same
  refine ⟨sound, .of_resting (Operation.mem_configure_states.mp resting) ?_ ?_ cleared⟩
  · rw [same, run]
  · rw [same]
    exact unobserved agrees.observers

theorem Coupled.configure {text : String} {engine : ε} (coupled : session.Coupled)
    (loaded : GraphEngine.load text session.engine = (.ok (), engine))
    (found : GraphEngine.hasInput session.config.inputStream engine = true) :
    Coupled { session with
      engine
      graph := some text
      bindings := session.bindings.clear
      lifecycle := session.lifecycle.configured } := by
  obtain ⟨sound, performed⟩ := FrontEngine.behind_of_ok (.load text) coupled.sound loaded
  obtain ⟨resting, graph, parsed, same⟩ := ScriptedEngine.load_eq_ok_iff.mp performed
  have named : graph.inputStream = session.config.inputStream := by
    rw [FrontEngine.hasInput_behind, same] at found
    exact beq_iff_eq.mp found
  refine ⟨sound, ?_⟩
  rw [same]
  exact {
    observers := rfl
    running := by simp [ScriptedEngine.isRunning, resting, state, Lifecycle.configured]
    run := by simp [resting]
    configured := fun _ => ⟨rfl, text, graph, rfl, parsed, rfl, named⟩
    cleared := fun _ => rfl }

theorem Coupled.launch {engine : ε} (coupled : session.Coupled)
    (configured : session.state = .configured)
    (begun : launch session.bindings (GraphEngine.connectFaults session.engine) =
      (.ok (), engine)) :
    Coupled { session with
      bindings := session.bindings.clear
      engine
      lifecycle := session.lifecycle.running } := by
  obtain ⟨last, text, graph, _, _, loaded, named⟩ := coupled.agrees.configured configured
  have spec := FrontEngine.launch_spec session.bindings
    (FrontEngine.connectFaults_sound coupled.sound)
  rw [begun, FrontEngine.behind_connectFaults] at spec
  obtain ⟨sound, _, started, _, found, same⟩ := spec
  have started_eq : started = graph := Option.some.inj (found.symm.trans loaded)
  refine ⟨sound, ?_⟩
  rw [same]
  exact {
    observers := rfl
    running := by simp [ScriptedEngine.isRunning, state, Lifecycle.running]
    run := by
      rintro run ⟨⟩
      exact ⟨rfl, last.symm, graph, loaded, named⟩
    configured := by simp [state, Lifecycle.running]
    cleared := fun _ => rfl }

/-- An aborted start leaves the worker and the run alone. The graph is loaded again, as it
was once already, so no observer is left. -/
theorem Coupled.abort_spec {status : Status} {engine : ε} (coupled : session.Coupled)
    (configured : session.state = .configured)
    (begun : Session.launch session.bindings (GraphEngine.connectFaults session.engine) =
      (.error status, engine)) :
    IsSound (reload session.graph engine) ∧
      ∃ graph sink, behind (reload session.graph engine) =
        { behind session.engine with graph, observers := .empty, sink } := by
  obtain ⟨_, text, graph, remembered, parsed, _, _⟩ := coupled.agrees.configured configured
  have resting := coupled.agrees.resting (by simp [configured])
  have spec := FrontEngine.launch_spec session.bindings
    (FrontEngine.connectFaults_sound coupled.sound)
  rw [begun, FrontEngine.behind_connectFaults] at spec
  obtain ⟨sound, observers, left⟩ := spec
  have rest : (behind engine).run = none := by
    rw [left]
    exact resting
  obtain ⟨reloaded, same⟩ := FrontEngine.reload_spec sound rest parsed
  rw [remembered]
  exact ⟨reloaded, some graph, _, by rw [same, left]; rfl⟩

theorem Coupled.abort {status : Status} {engine : ε} (coupled : session.Coupled)
    (configured : session.state = .configured)
    (begun : Session.launch session.bindings (GraphEngine.connectFaults session.engine) =
      (.error status, engine)) :
    Coupled { session with
      bindings := session.bindings.clear
      engine := reload session.graph engine
      lifecycle := session.lifecycle.stopped } := by
  have resting := coupled.agrees.resting (by simp [configured])
  obtain ⟨sound, graph, sink, same⟩ := coupled.abort_spec configured begun
  exact ⟨sound, .of_resting (.inr rfl) (by rw [same]; exact resting) (by rw [same]) rfl⟩

theorem Coupled.withhold {input : StampedFrame} {status : Status} {engine : ε}
    (coupled : session.Coupled)
    (given : GraphEngine.addPacket session.config.inputStream input session.engine =
      (.error status, engine)) :
    Coupled { session with engine } := by
  obtain ⟨sound, same⟩ := FrontEngine.behind_of_error
    (.addPacket session.config.inputStream input) coupled.sound given
  exact ⟨sound, same ▸ coupled.agrees.kept rfl rfl rfl rfl⟩

theorem Coupled.feed {input : StampedFrame} {engine : ε} (coupled : session.Coupled)
    (running : session.state = .running)
    (given : GraphEngine.addPacket session.config.inputStream input session.engine =
      (.ok (), engine)) :
    Coupled { session with
      engine
      lifecycle := session.lifecycle.accepted input.timestamp } := by
  obtain ⟨sound, performed⟩ := FrontEngine.behind_of_ok
    (.addPacket session.config.inputStream input) coupled.sound given
  obtain ⟨run, found, opened, _, same⟩ := ScriptedEngine.addPacket_eq_ok_iff.mp performed
  obtain ⟨graph, loaded, named, _⟩ := ScriptedEngine.runOn_eq_ok_iff.mp found
  have agrees := coupled.agrees
  refine ⟨sound, ?_⟩
  rw [same]
  exact {
    observers := agrees.observers
    running := by
      change session.state = .running ↔ true = true
      simp [running]
    run := by
      rintro _ ⟨⟩
      exact ⟨opened, rfl, graph, loaded, named.symm⟩
    configured := fun state => nomatch running.symm.trans state
    cleared := agrees.cleared }

theorem Coupled.drain {engine : ε} {outlets : Outlets} (coupled : session.Coupled)
    (running : session.state = .running)
    (ended : endRun session.config.inputStream session.engine session.outlets =
      (engine, outlets)) :
    Coupled { session with engine, outlets, lifecycle := session.lifecycle.stopped } := by
  have spec := FrontEngine.endRun_spec session.config.inputStream session.outlets coupled.sound
  rw [ended] at spec
  obtain ⟨sound, worker, same⟩ := spec
  exact ⟨sound, .of_resting (.inr rfl) (by rw [same])
    (by rw [same]; exact coupled.agrees.observers)
    (coupled.agrees.cleared (by simp [running]))⟩

theorem Coupled.step (coupled : session.Coupled) (step : session.Step action answer next) :
    next.Coupled := by
  have agrees := coupled.agrees
  cases step with
  | rejected error rejected => exact coupled.withOutlets _
  | tended extended granted silent => exact coupled.withOutlets _
  | misconfigured state read loaded => exact coupled.misconfigure state loaded
  | configured state read loaded found => exact coupled.configure loaded found
  | bound configured capacity extended granted silent =>
      exact ⟨coupled.sound, agrees.observers, agrees.running, agrees.run, agrees.configured,
        fun state => absurd configured state⟩
  | launched configured begun => exact (coupled.launch configured begun).settle
  | aborted configured begun => exact coupled.abort configured begun
  | withheld checked given => exact (coupled.withhold given).withOutlets _
  | fed checked given granted records =>
      have taken := coupled.feed (state_of_checkStamp checked) given
      exact (taken.withOutlets session.outlets.countFed).settle
  | drained running ended => exact coupled.drain running ended
  | dropped configured =>
      exact ⟨coupled.sound, .of_resting (.inr rfl)
        (agrees.resting (by simp [configured])) agrees.observers rfl⟩
  | polled polled granted silent => exact coupled.polled polled

theorem Coupled.after (coupled : session.Coupled) (actions : List Action) :
    (session.after actions).Coupled := by
  induction actions generalizing session with
  | nil => exact coupled
  | cons action rest ih => exact ih (coupled.step (session.perform_step action))

end Coupling

/-- The session's last timestamp bounds the stamps that callers saw accepted. -/
def Bounds (last : Option Timestamp) (stamps : List Timestamp) : Prop :=
  match last with
  | none => stamps = []
  | some last => last ∈ stamps ∧ ∀ stamp ∈ stamps, stamp ≤ last

theorem Bounds.precedes_iff {last : Option Timestamp} {stamps : List Timestamp}
    (bounds : Bounds last stamps) (timestamp : Timestamp) :
    (∀ previous, last = some previous → previous < timestamp) ↔
      ∀ stamp ∈ stamps, stamp < timestamp := by
  cases last with
  | none =>
      have empty : stamps = [] := bounds
      simp [empty]
  | some last =>
      obtain ⟨member, greatest⟩ := bounds
      constructor
      · intro later stamp known
        have before := Timestamp.le_def.mp (greatest stamp known)
        have after := Timestamp.lt_def.mp (later last rfl)
        exact Timestamp.lt_def.mpr (by omega)
      · rintro later _ ⟨⟩
        exact later last member

theorem Bounds.accept {last : Option Timestamp} {stamps : List Timestamp}
    (bounds : Bounds last stamps) {timestamp : Timestamp}
    (later : ∀ previous, last = some previous → previous < timestamp) :
    Bounds (some timestamp) (stamps ++ [timestamp]) := by
  refine ⟨by simp, fun stamp known => ?_⟩
  rcases List.mem_append.mp known with old | new
  · have before := Timestamp.lt_def.mp ((bounds.precedes_iff timestamp).mp later stamp old)
    exact Timestamp.le_def.mpr (by omega)
  · rw [List.mem_singleton.mp new]
    exact Int.le_refl _

/-- What holds of the last timestamp and the stamps of a run before its first frame, and goes on
holding when a frame after the last one is accepted. -/
structure Accumulates (holds : Option Timestamp → List Timestamp → Prop) : Prop where
  begins : holds none []
  accepts : ∀ {last stamps timestamp}, holds last stamps →
    (∀ previous, last = some previous → previous < timestamp) →
    holds (some timestamp) (stamps ++ [timestamp])

section Accumulating

variable [FrontEngine ε] {session : Session ε} {stamps : List Timestamp}
  {holds : Option Timestamp → List Timestamp → Prop}

theorem Accumulates.step {next : Session ε} {action : Action} {answer : Answer}
    (accumulates : Accumulates holds) (coupled : session.Coupled)
    (known : session.state = .running → holds session.lifecycle.lastTimestamp stamps)
    (step : session.Step action answer next) (running : next.state = .running) :
    holds next.lifecycle.lastTimestamp (stampsAfter stamps (action, answer)) := by
  cases step with
  | rejected error rejected => simpa only [stampsAfter_refused] using known running
  | tended extended granted silent => simpa only [silent] using known running
  | misconfigured state read loaded =>
      have busy : session.state = .running := running
      simp [Operation.states, busy] at state
  | configured state read loaded found => cases running
  | bound configured capacity extended granted silent =>
      exact absurd (configured.symm.trans running) (by decide)
  | launched configured begun =>
      have unstamped := (coupled.agrees.configured configured).1
      exact unstamped.symm ▸ accumulates.begins
  | aborted configured begun => cases running
  | withheld checked given => simpa only [stampsAfter_refused] using known running
  | fed checked given granted records =>
      rw [records]
      exact accumulates.accepts (known running) (Lifecycle.checkStamp_eq_ok_iff.mp checked).2
  | drained state ended => cases running
  | dropped configured => cases running
  | polled polled granted silent =>
      rw [Session.state, polled.lifecycle] at running
      rw [silent, polled.lifecycle]
      exact known running

theorem Accumulates.after (accumulates : Accumulates holds) (coupled : session.Coupled)
    (known : session.state = .running → holds session.lifecycle.lastTimestamp stamps)
    (actions : List Action) (running : (session.after actions).state = .running) :
    holds (session.after actions).lifecycle.lastTimestamp
      ((session.history actions).foldl stampsAfter stamps) := by
  induction actions generalizing session stamps with
  | nil => exact known running
  | cons action rest ih =>
      have step := session.perform_step action
      exact ih (coupled.step step) (accumulates.step coupled known step) running

theorem Bounds.after (coupled : session.Coupled)
    (bounds : session.state = .running → Bounds session.lifecycle.lastTimestamp stamps)
    (actions : List Action) (running : (session.after actions).state = .running) :
    Bounds (session.after actions).lifecycle.lastTimestamp
      ((session.history actions).foldl stampsAfter stamps) :=
  Accumulates.after ⟨rfl, fun bounds later => bounds.accept later⟩ coupled bounds actions running

end Accumulating

section Feeding

variable {session : Session SessionEngine}

theorem Agrees.exists_run (agrees : session.Agrees session.engine)
    (running : session.state = .running) :
    ∃ run, session.engine.runOn session.config.inputStream = .ok run ∧ run.inputOpen = true ∧
      run.lastTimestamp = session.lifecycle.lastTimestamp := by
  obtain ⟨run, begun⟩ := Option.isSome_iff_exists.mp (agrees.running.mp running)
  obtain ⟨opened, last, graph, loaded, named⟩ := agrees.run run begun
  exact ⟨run, ScriptedEngine.runOn_eq_ok_iff.mpr ⟨graph, loaded, named.symm, begun⟩, opened,
    last⟩

theorem Agrees.feedAt_of_checked (agrees : session.Agrees session.engine)
    (running : session.state = .running) {input : StampedFrame}
    (checked : session.lifecycle.checkStamp input.timestamp = .ok ()) :
    ∃ run, session.feedAt input = (.ok (), settle { session with
      engine := session.engine.accept run input
      lifecycle := session.lifecycle.accepted input.timestamp
      outlets := session.outlets.countFed }) := by
  obtain ⟨run, found, opened, last⟩ := agrees.exists_run running
  have next : run.Precedes input.timestamp := by
    rw [Run.Precedes, last]
    exact (Lifecycle.checkStamp_eq_ok_iff.mp checked).2
  have given : GraphEngine.addPacket session.config.inputStream input session.engine =
      (.ok (), session.engine.accept run input) :=
    congrArg (SessionEngine.answer session.engine)
      (ScriptedEngine.addPacket_of_precedes found opened next)
  exact ⟨run, by simp only [feedAt, checked, given]⟩

theorem Agrees.feedAt_eq (agrees : session.Agrees session.engine)
    (running : session.state = .running) (input : StampedFrame) :
    (session.feedAt input).1 = session.lifecycle.checkStamp input.timestamp := by
  cases checked : session.lifecycle.checkStamp input.timestamp with
  | error error => simp only [feedAt, checked, reject]
  | ok done =>
      obtain ⟨run, fed⟩ := agrees.feedAt_of_checked running checked
      rw [fed]

/-- A run can be ended without cancelling it: its input closes, and then it can be waited
for. -/
def Drains (session : Session SessionEngine) : Prop :=
  ∃ closed, GraphEngine.closeInput session.config.inputStream session.engine =
      (.ok (), closed) ∧
    (GraphEngine.waitUntilDone (GraphEngine.advance closed session.outlets).1).1 = .ok ()

/-- The input of a run closes, and after the rest is worked off the run can be waited for. -/
theorem Agrees.calls_of_drain (agrees : session.Agrees session.engine)
    (running : session.state = .running) :
    ∃ run, let closed : SessionEngine := { session.engine with run := some run }
      let worked := (GraphEngine.advance closed session.outlets).1
      GraphEngine.closeInput session.config.inputStream session.engine = (.ok (), closed) ∧
        GraphEngine.waitUntilDone worked = (.ok (), { worked with run := none }) := by
  obtain ⟨run, found, _, _⟩ := agrees.exists_run running
  let closed := { session.engine with run := some { run with inputOpen := false } }
  let worked := (closed.advance SessionEngine.reaction session.outlets).1
  have close : session.engine.closeInput session.config.inputStream = .ok closed :=
    ScriptedEngine.closeInput_eq_ok_iff.mpr ⟨run, found, rfl⟩
  have ended : worked.waitUntilDone = .ok { worked with run := none } := by
    refine ScriptedEngine.waitUntilDone_eq_ok_iff.mpr ⟨fun last same => ?_, rfl⟩
    rw [ScriptedEngine.advance_run] at same
    cases same
    rfl
  exact ⟨_, congrArg (SessionEngine.answer session.engine) close,
    congrArg (SessionEngine.answer worked) ended⟩

theorem Agrees.drains (agrees : session.Agrees session.engine)
    (running : session.state = .running) : session.Drains := by
  obtain ⟨run, close, ended⟩ := agrees.calls_of_drain running
  exact ⟨_, close, congrArg Prod.fst ended⟩

theorem Agrees.feedAt_ne_feedRejected (agrees : session.Agrees session.engine)
    (input : StampedFrame) (timestamp : Timestamp) (status : Status) :
    (session.feedAt input).1 ≠ .error (.feedRejected timestamp status) := by
  intro rejected
  by_cases running : session.state = .running
  · rw [agrees.feedAt_eq running] at rejected
    obtain ⟨_, _, other⟩ := Lifecycle.checkStamp_eq_error running rejected
    contradiction
  · have outside : session.lifecycle.state ∉ Operation.feed.states :=
      fun allowed => running (List.mem_singleton.mp allowed)
    simp [feedAt, Lifecycle.checkStamp, Lifecycle.require, outside, reject] at rejected

/-- Whatever is asked of a session, in whatever order: it and its engine agree. So a
running session takes just the frames after all those it took in this run, refuses others
by their order and nothing else, and drains without being cancelled. -/
theorem agrees_after (task : Task) (layout : Layout) (config : SessionConfig)
    (actions : List Action) :
    let session := (opened task layout config).after actions
    let stamps := acceptedStamps ((opened task layout config).history actions)
    session.Agrees session.engine ∧
      (∀ input timestamp status,
        (session.feedAt input).1 ≠ .error (.feedRejected timestamp status)) ∧
      (session.state = .running → session.Drains ∧ ∀ input : StampedFrame,
        ((session.feedAt input).1 = .ok () ↔ ∀ stamp ∈ stamps, stamp < input.timestamp) ∧
        ∀ error, (session.feedAt input).1 = .error error →
          ∃ previous ∈ stamps, error = .outOfOrderFrame input.timestamp previous) := by
  intro session stamps
  have initially : (opened task layout config).Coupled :=
    coupled_fresh trivial rfl rfl task layout config
  -- Agreement alone says what the engine will take; what callers saw comes from the bounds.
  have agrees : session.Agrees session.engine := (initially.after actions).agrees
  refine ⟨agrees, agrees.feedAt_ne_feedRejected, fun running => ⟨agrees.drains running, ?_⟩⟩
  intro input
  have bounds : Bounds session.lifecycle.lastTimestamp stamps :=
    Bounds.after initially (fun state => nomatch state) actions running
  rw [agrees.feedAt_eq running]
  constructor
  · rw [Lifecycle.checkStamp_eq_ok_iff, ← bounds.precedes_iff]
    exact and_iff_right running
  · intro error refused
    obtain ⟨previous, last, same⟩ := Lifecycle.checkStamp_eq_error running refused
    rw [last] at bounds
    exact ⟨previous, bounds.1, same⟩

/-- The second run of a session, after a frame that came too late. -/
theorem agrees_after_restart :
    let graph : Action := .configure (.text "\x7b\x7d")
    let fed (micros : Int) : Action := .feedAt ⟨.clamp micros, .black⟩
    let actions := [graph, .start, fed 9, .stop, graph, .start, fed 5, fed 3]
    let session := (opened .detection [] {}).after actions
    session.state = .running ∧ (session.feedAt ⟨.clamp 6, .black⟩).1 = .ok () ∧
      (session.feedAt ⟨.clamp 5, .black⟩).1 ≠ .ok () := by
  intro graph fed actions session
  have running : session.state = .running := by decide +kernel
  have stamps : acceptedStamps ((opened .detection [] {}).history actions) = [.clamp 5] := by
    decide +kernel
  have feeds := ((agrees_after .detection [] {} actions).2.2 running).2
  rw [stamps] at feeds
  refine ⟨running, (feeds _).1.mpr (by decide), fun taken => ?_⟩
  exact absurd ((feeds _).1.mp taken) (by decide)

end Feeding

end Session

end FrameFlow
