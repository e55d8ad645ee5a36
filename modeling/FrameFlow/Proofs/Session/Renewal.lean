import FrameFlow.Proofs.Session.Refusals
import FrameFlow.Proofs.Session.Release

/-!
A session that has come to rest is as good as new. Of its runs it keeps what its callers have,
and that faults of the coming runs are reported; the next start sees to that in any case.
-/

namespace FrameFlow

/-- The worker of a run has its own sink, so another one may be set meanwhile. -/
theorem ScriptedEngine.advance_withSink {η φ ω : Type} (reaction : Reaction η φ ω)
    (engine : ScriptedEngine η φ) (world : ω) (sink : Option φ) :
    advance reaction { engine with sink } world =
      (engine.advance reaction world).map (fun after => { after with sink }) id := by
  have opened : ∀ worker, isInputOpen { engine with sink, worker } = engine.isInputOpen :=
    fun _ => rfl
  cases found : engine.worker with
  | none => simp only [advance, found, Prod.map, id]
  | some worker =>
      simp only [advance, found, opened]
      split <;> rfl

namespace Session

variable {session other : Session SessionEngine} {action : Action} (sink : Option Unit)

def withSink (session : Session SessionEngine) : Session SessionEngine :=
  { session with engine := { session.engine with sink } }

theorem unnoticed_withSink : Unnoticed (withSink sink) id where
  outlets _ := rfl
  isOpen _ := rfl
  channels _ := rfl
  withChannels _ _ := rfl
  settle session outlets := by
    have worked : GraphEngine.advance { session.engine with sink } outlets =
        (GraphEngine.advance session.engine outlets).map
          (fun engine => { engine with sink }) id :=
      ScriptedEngine.advance_withSink ..
    simp only [Session.settle, withSink, id, worked, Prod.map]

theorem load_withSink (text : String) (engine : SessionEngine) :
    GraphEngine.load text { engine with sink } =
      (GraphEngine.load text engine).map id (fun after => { after with sink }) := by
  obtain ⟨graph, observers, before, run, worker⟩ := engine
  dsimp only [GraphEngine.load, ScriptedEngine.load, ScriptedEngine.isRunning]
  cases run with
  | some run => rfl
  | none => cases Graph.parse text <;> rfl

theorem configure_withSink (source : GraphSource) :
    (session.withSink sink).configure source =
      (session.configure source).map id (withSink sink) := by
  dsimp only [configure, withSink]
  cases session.lifecycle.require .configure with
  | error error => rfl
  | ok done =>
      cases source.load with
      | error error => rfl
      | ok text =>
          simp only [load_withSink]
          rcases GraphEngine.load text session.engine with ⟨result, engine⟩
          cases result with
          | error status => rfl
          | ok done =>
              have known : GraphEngine.hasInput session.config.inputStream { engine with sink } =
                  GraphEngine.hasInput session.config.inputStream engine := rfl
              simp only [Prod.map, id, known]
              split <;> rfl

theorem bindStream_withSink (operation : Operation) (stream : String) (binding : Binding) :
    (session.withSink sink).bindStream operation stream binding =
      (session.bindStream operation stream binding).map id (withSink sink) := by
  dsimp only [bindStream, withSink]
  cases session.lifecycle.require operation with
  | error error => rfl
  | ok done =>
      simp only
      cases session.bindings.bindCallback stream binding <;> rfl

theorem previewLatest_withSink :
    (session.withSink sink).previewLatest = session.previewLatest.map id (withSink sink) := by
  dsimp only [previewLatest, bindStream, withSink]
  cases session.lifecycle.require .bindPreview with
  | error error => rfl
  | ok done =>
      simp only
      cases session.bindings.bindCallback session.config.previewStream
        (.latest session.outlets.addPlace.1) <;> rfl

theorem bindPoller_withSink (port : Port) :
    (session.withSink sink).bindPoller port =
      (session.bindPoller port).map id (withSink sink) := by
  dsimp only [bindPoller, withSink]
  cases session.lifecycle.require .bindPoller with
  | error error => rfl
  | ok done =>
      cases port.presence with
      | none =>
          simp only
          cases session.bindings.bindPoller port.output session.outlets <;> rfl
      | some presence =>
          simp only
          cases session.bindings.bindGated port.output presence session.outlets <;> rfl

theorem pollStream_withSink (stream : String) :
    (session.withSink sink).pollStream stream =
      (session.pollStream stream).map id (withSink sink) := by
  dsimp only [pollStream, withSink]
  cases session.lifecycle.require .pollStream with
  | error error => rfl
  | ok done =>
      simp only
      cases session.bindings.bindPoller stream session.outlets <;> rfl

/-- A start sets the sink itself, so one that is allowed does not depend on it. -/
theorem start_withSink :
    ∃ kept, (session.withSink sink).start = session.start.map id (withSink kept) ∧
      (session.start.1 = .ok () → kept = session.start.2.engine.sink) := by
  dsimp only [start, withSink]
  cases session.lifecycle.require .start with
  | error error => exact ⟨sink, rfl, nofun⟩
  | ok done =>
      have connected : GraphEngine.connectFaults { session.engine with sink } =
          GraphEngine.connectFaults session.engine := rfl
      simp only [connected]
      rcases launch session.bindings (GraphEngine.connectFaults session.engine) with
        ⟨result, engine⟩
      cases result with
      | error status => exact ⟨(reload session.graph engine).sink, rfl, nofun⟩
      | ok done => exact ⟨_, rfl, fun _ => rfl⟩

theorem feedAt_withSink (resting : session.state ≠ .running) (input : StampedFrame) :
    (session.withSink sink).feedAt input = (session.feedAt input).map id (withSink sink) := by
  have outside : session.lifecycle.require .feed =
      .error (.lifecycle .feed session.lifecycle.state) :=
    if_neg fun allowed => resting (List.mem_singleton.mp allowed)
  simp only [feedAt, withSink, Lifecycle.checkStamp, outside]
  rfl

theorem stop_withSink (resting : session.state ≠ .running) :
    (session.withSink sink).stop = session.stop.withSink sink := by
  dsimp only [stop, withSink, state]
  cases found : session.lifecycle.state with
  | running => exact absurd found resting
  | _ => rfl

/-- While a session does not run, nothing but a start has to do with the sink of its engine. -/
theorem perform_withSink (resting : session.state ≠ .running) (other : action ≠ .start) :
    (session.withSink sink).perform action =
      (session.perform action).map id (withSink sink) := by
  have fed := session.feedAt_withSink sink resting
  cases action with
  | configure source => rw [perform, configure_withSink, answered_map, perform]
  | bindCallback port listener =>
      rw [perform, bindCallback, bindStream_withSink, answered_map]
      rfl
  | observeStream stream listener =>
      rw [perform, observeStream, bindStream_withSink, answered_map]
      rfl
  | bindPreview listener =>
      rw [perform, bindPreview, bindStream_withSink, answered_map]
      rfl
  | previewLatest => rw [perform, previewLatest_withSink, answered_map, perform]
  | bindPoller port => rw [perform, bindPoller_withSink, answered_map, perform]
  | pollStream stream => rw [perform, pollStream_withSink, answered_map, perform]
  | start => exact absurd rfl other
  | feed frame now =>
      have stamped : (session.withSink sink).lifecycle = session.lifecycle := rfl
      rw [perform, feed, stamped, fed, perform, feed]
      rcases session.feedAt ⟨session.lifecycle.stamp now, frame⟩ with ⟨result, next⟩
      cases result <;> rfl
  | feedAt input => rw [perform, fed, answered_map, perform]
  | stop =>
      rw [perform, stop_withSink sink resting, perform]
      rfl
  | listenForErrors listener => rfl
  | lookAt place => rfl
  | take place => rfl
  | _ => exact (unnoticed_withSink sink).perform rfl session

/-- Two sessions that are the same, or differ in where faults would be reported, while neither
of them runs. -/
def Resembles (session other : Session SessionEngine) : Prop :=
  other = session ∨ ∃ sink told, other = session.withSink sink ∧ Quiet told session

theorem Resembles.perform (resembles : session.Resembles other) (coupled : session.Coupled)
    (action : Action) :
    (other.perform action).1 = (session.perform action).1 ∧
      (session.perform action).2.Resembles (other.perform action).2 := by
  rcases resembles with rfl | ⟨sink, told, rfl, quiet⟩
  · exact ⟨rfl, .inl rfl⟩
  have step := session.perform_step action
  by_cases starts : action = .start
  · subst starts
    obtain ⟨kept, same, sunk⟩ := session.start_withSink sink
    rw [Session.perform, same, answered_map, Session.perform]
    refine ⟨rfl, ?_⟩
    rcases begun : session.start with ⟨result, next⟩
    rw [begun] at sunk
    cases result with
    | error error =>
        rw [Session.perform, begun] at step
        exact .inr ⟨kept, told, rfl, quiet.step coupled step (by simp [answered])⟩
    | ok done =>
        rw [sunk rfl]
        exact .inl rfl
  · rw [perform_withSink sink quiet.state starts]
    refine ⟨rfl, .inr ⟨sink, told, rfl, quiet.step coupled step ?_⟩⟩
    exact fun same => starts (congrArg Prod.fst same)

/-- No caller can tell such sessions apart. -/
theorem Resembles.after (resembles : session.Resembles other) (coupled : session.Coupled)
    (actions : List Action) :
    other.history actions = session.history actions ∧
      (other.after actions).lifecycle = (session.after actions).lifecycle ∧
      (other.after actions).outlets = (session.after actions).outlets := by
  induction actions generalizing session other with
  | nil => rcases resembles with rfl | ⟨sink, told, rfl, quiet⟩ <;> exact ⟨rfl, rfl, rfl⟩
  | cons action rest ih =>
      obtain ⟨answer, next⟩ := resembles.perform coupled action
      obtain ⟨history, same⟩ := ih next (coupled.step (session.perform_step action))
      refine ⟨?_, same⟩
      simp only [Session.history, answer, history]

/-- A new session of the same kind, for callers who keep the queues and places they have. -/
abbrev renewed (session : Session SessionEngine) : Session SessionEngine :=
  { opened session.task session.layout session.config with outlets := session.outlets }

/-- The graph that a source has for a session with an input stream, and its text. -/
def readGraph (inputStream : String) (source : GraphSource) :
    Except SessionError (String × Graph) :=
  match source.load with
  | .error error => .error error
  | .ok text =>
      match Graph.parse text with
      | .error violation => .error (.config (EngineRefusal.badGraph violation).status)
      | .ok graph =>
          if graph.inputStream == inputStream then .ok (text, graph)
          else .error (.config (EngineRefusal.unknownInput inputStream).status)

/-- At rest, what a configuration does depends on its source alone. -/
theorem configure_of_resting (resting : session.state ∈ Operation.configure.states)
    (unrun : session.engine.run = none) (source : GraphSource) :
    let read := readGraph session.config.inputStream source
    (session.configure source).1 = read.map (fun _ => ()) ∧
      ∀ text graph, read = .ok (text, graph) → (session.configure source).2 = { session with
        engine := { session.engine with graph := some graph, observers := .empty }
        graph := some text
        bindings := session.bindings.clear
        lifecycle := session.lifecycle.configured } := by
  have allowed : session.lifecycle.require .configure = .ok () := if_pos resting
  have loads (text : String) : GraphEngine.load text session.engine =
      SessionEngine.answer session.engine (session.engine.load text) := rfl
  have settled : session.engine.isRunning = false := by rw [ScriptedEngine.isRunning, unrun]; rfl
  simp only [configure, readGraph, allowed, loads, ScriptedEngine.load, settled]
  cases source.load with
  | error error => exact ⟨rfl, fun _ _ failed => by cases failed⟩
  | ok text =>
      dsimp only
      cases Graph.parse text with
      | error violation => exact ⟨rfl, fun _ _ failed => by cases failed⟩
      | ok graph =>
          have known : GraphEngine.hasInput session.config.inputStream
              { session.engine with graph := some graph, observers := .empty } =
                (graph.inputStream == session.config.inputStream) := rfl
          simp only [SessionEngine.answer, Bool.false_eq_true, if_false, known]
          split
          · refine ⟨rfl, fun _ _ same => ?_⟩
            cases same
            rfl
          · exact ⟨rfl, fun _ _ failed => by cases failed⟩

/-- At rest, a graph is taken or refused as by a new session, and once it is taken the session
is like a new one. -/
theorem configure_renewed (coupled : session.Coupled)
    (capacity : session.bindings.capacity = session.config.pollerCapacity)
    (resting : session.state ∈ Operation.configure.states)
    (idle : session.engine.worker = none) (source : GraphSource) :
    (session.configure source).1 = (session.renewed.configure source).1 ∧
      ((session.configure source).1 = .ok () →
        (session.renewed.configure source).2.Resembles (session.configure source).2) := by
  have unrun : session.engine.run = none :=
    coupled.agrees.resting (SessionState.ne_running_of_mem resting)
  have new : session.renewed.state ∈ Operation.configure.states :=
    Operation.mem_configure_states.mpr (.inl rfl)
  obtain ⟨answer, configured⟩ := configure_of_resting resting unrun source
  obtain ⟨newAnswer, newlyConfigured⟩ := configure_of_resting new rfl source
  refine ⟨answer.trans newAnswer.symm, fun done => ?_⟩
  cases read : readGraph session.config.inputStream source with
  | error error =>
      rw [answer, read] at done
      contradiction
  | ok found =>
      obtain ⟨text, graph⟩ := found
      rw [configured text graph read, newlyConfigured text graph read]
      obtain ⟨⟨loaded, observers, sink, run, worker⟩, task, layout, config, lifecycle,
        ⟨bindings, bound⟩, remembered, outlets⟩ := session
      subst unrun idle
      obtain rfl : bound = config.pollerCapacity := capacity
      exact .inr ⟨sink, outlets.events, rfl, rfl, nofun, rfl⟩

end Session

end FrameFlow
