import FrameFlow.Proofs.Engine.Pace
import FrameFlow.Proofs.Session.Serving

/-!
A session right after its start: a worker that has nothing to do yet, with the bindings as
its observers.
-/

namespace FrameFlow

theorem ScriptedEngine.isInputOpen_advance {η φ ω : Type} (reaction : Reaction η φ ω)
    (engine : ScriptedEngine η φ) (world : ω) :
    (engine.advance reaction world).1.isInputOpen = engine.isInputOpen := by
  rw [isInputOpen, advance_run, isInputOpen]

/-- A worker that waits for frames stays as it is. -/
theorem ScriptedEngine.advance_of_idle {η φ ω : Type} {reaction : Reaction η φ ω}
    {engine : ScriptedEngine η φ} {worker : Worker η φ} (found : engine.worker = some worker)
    (idle : worker.isIdle = true) (opened : engine.isInputOpen = true) (world : ω) :
    engine.advance reaction world = (engine, world) := by
  simp only [Worker.isIdle, Bool.and_eq_true, List.isEmpty_iff] at idle
  refine advance_of_no_step fun after step => ?_
  cases step with
  | begins known rested waiting =>
      cases found.symm.trans known
      rw [idle.2] at waiting
      contradiction
  | emits known current emitted =>
      cases found.symm.trans known
      rw [idle.1] at current
      contradiction
  | ends known rested closed =>
      rw [opened] at closed
      contradiction

namespace Session

variable {session begun : Session SessionEngine} {graph : Graph}

theorem exists_of_start (starts : session.start = (.ok (), begun)) :
    session.state = .configured ∧ ∃ engine,
      launch session.bindings (GraphEngine.connectFaults session.engine) = (.ok (), engine) ∧
        begun = settle { session with
          bindings := session.bindings.clear
          engine
          lifecycle := session.lifecycle.running } := by
  simp only [start] at starts
  split at starts
  · simp at starts
  · rename_i allowed
    split at starts
    · simp at starts
    · rename_i engine launched
      cases starts
      exact ⟨by simpa [Operation.states] using state_of_require allowed, engine, launched, rfl⟩

theorem isInputOpen_of_running (coupled : session.Coupled) (running : session.state = .running) :
    session.engine.isInputOpen = true := by
  obtain ⟨run, found⟩ := Option.isSome_iff_exists.mp (coupled.agrees.running.mp running)
  rw [ScriptedEngine.isInputOpen, show session.engine.run = some run from found]
  exact (coupled.agrees.run run found).1

/-- What a start leaves: the bindings have become the observers of a worker that waits for
frames, and nothing was delivered. -/
structure Launched (graph : Graph) (session begun : Session SessionEngine) : Prop where
  worker : ∃ observers, begun.engine.worker = some { graph, observers, sink := some () } ∧
    ∀ stream, observers.find? stream = session.bindings.bindings.find? stream
  opened : begun.engine.isInputOpen = true
  outlets : begun.outlets = session.outlets
  running : begun.state = .running
  unstamped : begun.lifecycle.lastTimestamp = none
  bindings : begun.bindings = session.bindings.clear

theorem launched_of_start (coupled : session.Coupled) (starts : session.start = (.ok (), begun))
    (loaded : session.engine.graph = some graph) : Launched graph session begun := by
  have step : session.Step .start _ begun :=
    step_of_perform (by rw [perform, answered_snd, starts])
  have next := coupled.step step
  obtain ⟨configured, engine, launched, rfl⟩ := exists_of_start starts
  have unobserved : (GraphEngine.connectFaults session.engine).observers = .empty :=
    coupled.agrees.observers
  obtain ⟨played, observers, same, alike, begins⟩ :=
    SessionEngine.worker_of_launch unobserved launched
  obtain rfl : graph = played := Option.some.inj (loaded.symm.trans same)
  have opened := isInputOpen_of_running next rfl
  have waits : engine.isInputOpen = true :=
    (ScriptedEngine.isInputOpen_advance _ engine session.outlets).symm.trans opened
  have settled : engine.advance SessionEngine.reaction session.outlets =
      (engine, session.outlets) := ScriptedEngine.advance_of_idle begins rfl waits _
  refine ⟨⟨observers, ?_, alike⟩, opened, ?_, rfl, ?_, rfl⟩
  · exact (congrArg (fun after => after.1.worker) settled).trans begins
  · exact congrArg Prod.snd settled
  · exact (coupled.agrees.configured configured).1

/-- A session that was bound and then started, on a graph that it has loaded. -/
theorem launched_of_step {action : Action} {answer : Answer} {bound : Session SessionEngine}
    (coupled : session.Coupled) (settled : session.Settled)
    (step : session.Step action answer bound) (starts : bound.start = (.ok (), begun))
    (loaded : bound.engine.graph = some graph) :
    begun.Coupled ∧ begun.Settled ∧ begun.config = session.config ∧ graph.WellFormed ∧
      Launched graph bound begun := by
  have startStep : bound.Step .start _ begun :=
    step_of_perform (by rw [perform, answered_snd, starts])
  have boundCoupled := coupled.step step
  obtain ⟨configured, _⟩ := exists_of_start starts
  obtain ⟨_, _, _, _, parsed, same, _⟩ := boundCoupled.agrees.configured configured
  obtain rfl : graph = _ := Option.some.inj (loaded.symm.trans same)
  exact ⟨boundCoupled.step startStep, (settled.step coupled step).step boundCoupled startStep,
    startStep.config.trans step.config, Graph.wellFormed_of_parse parsed,
    launched_of_start boundCoupled starts loaded⟩

end Session

end FrameFlow
