import FrameFlow.Proofs.Session.Agreement
import FrameFlow.Proofs.Session.Conversation

/-!
A session keeps to the order of calls that engines ask for, however its engine answers and
whatever callers do. Its state tells where the conversation stands.
-/

namespace FrameFlow

open GraphEngine

section Calls

variable {ε : Type} [GraphEngine ε] {input : String} {phase next : Phase}
  {watched after : WatchedEngine ε} {answer : Except Status Unit}

theorem Conversation.call (talk : Conversation input phase watched.exchanges)
    (call : Call Binding) (answered : perform watched call = (answer, after))
    (goes : phase.Goes input (.called call answer after.engine) next) :
    Conversation input next after.exchanges := by
  rw [WatchedEngine.perform_eq] at answered
  cases answered
  exact .continued talk goes

theorem Conversation.load (talk : Conversation input .idle watched.exchanges) (text : String) :
    Conversation input .idle (GraphEngine.load text watched).2.exchanges :=
  talk.call (.load text) rfl .discarded

/-- The streams of a table of bindings are observed in order, up to one that is refused. -/
theorem Conversation.install {streams : List String} {entries : List (String × Binding)}
    (talk : Conversation input (.observing streams) watched.exchanges)
    (sorted : entries.Pairwise fun a b => a.1 < b.1)
    (later : ∀ entry ∈ entries, ∀ earlier ∈ streams, earlier < entry.1) :
    match Session.install entries watched with
    | (.ok (), installed) =>
        ∃ streams, Conversation input (.observing streams) installed.exchanges
    | (.error _, refused) => Conversation input .idle refused.exchanges := by
  induction entries generalizing watched streams with
  | nil => exact ⟨streams, talk⟩
  | cons entry rest ih =>
      obtain ⟨stream, binding⟩ := entry
      obtain ⟨least, restSorted⟩ := List.pairwise_cons.mp sorted
      obtain ⟨here, beyond⟩ := List.forall_mem_cons.mp later
      cases answered : observe stream binding watched with
      | mk result middle =>
          cases result with
          | error status =>
              simp only [Session.install, answered]
              exact talk.call (.observe stream binding) answered (.unobserved here)
          | ok done =>
              simp only [Session.install, answered]
              have observed := talk.call (.observe stream binding) answered (.observed here)
              refine ih observed restSorted fun other member earlier known => ?_
              rcases List.mem_append.mp known with old | new
              · exact beyond other member earlier old
              · rw [List.mem_singleton.mp new]
                exact least other member

theorem Conversation.launch (talk : Conversation input .loaded watched.exchanges)
    (bindings : BindingTable) :
    match Session.launch bindings (connectFaults watched) with
    | (.ok (), started) => Conversation input (.running []) started.exchanges
    | (.error _, refused) => Conversation input .idle refused.exchanges := by
  have connected : Conversation input (.observing []) (connectFaults watched).exchanges :=
    .continued talk .connected
  have installed := connected.install bindings.bindings.sorted (by simp)
  unfold Session.launch
  cases answered : Session.install bindings.bindings.entries (connectFaults watched) with
  | mk result middle =>
      rw [answered] at installed
      cases result with
      | error status => exact installed
      | ok done =>
          obtain ⟨streams, observing⟩ := installed
          simp only
          cases begun : start middle with
          | mk result last =>
              cases result with
              | error status => exact observing.call .start begun .unstarted
              | ok done => exact observing.call .start begun .started

theorem Conversation.reload (talk : Conversation input .idle watched.exchanges)
    (graph : Option String) :
    Conversation input .idle (Session.reload graph watched).exchanges := by
  cases graph with
  | none => exact talk
  | some text => exact talk.load text

theorem Conversation.endRun {stamps : List Timestamp}
    (talk : Conversation input (.running stamps) watched.exchanges) (outlets : Outlets) :
    Conversation input .idle (Session.endRun input watched outlets).1.exchanges := by
  have cancelled {stuck : WatchedEngine ε}
      (undrained : Conversation input .undrained stuck.exchanges) :
      Conversation input .idle (cancel stuck).2.exchanges :=
    undrained.call .cancel rfl .cancelled
  unfold Session.endRun
  cases closed : closeInput input watched with
  | mk result middle =>
      cases result with
      | error status => exact cancelled (talk.call (.closeInput input) closed .unclosed)
      | ok done =>
          have waiting : Conversation input .closed middle.exchanges :=
            talk.call (.closeInput input) closed .closed
          have advanced : Conversation input .closed (advance middle outlets).1.exchanges :=
            waiting
          simp only
          cases awaited : waitUntilDone (advance middle outlets).1 with
          | mk result last =>
              cases result with
              | error status => exact cancelled (advanced.call .waitUntilDone awaited .undrained)
              | ok done =>
                  have idle : Conversation input .idle last.exchanges :=
                    advanced.call .waitUntilDone awaited .drained
                  exact idle

end Calls

namespace Session

variable {ε : Type} [GraphEngine ε] {session next : Session (WatchedEngine ε)}
  {action : Action} {answer : Answer}

/-- What was said so far, and where that leaves a cycle of calls. -/
abbrev Said (session : Session (WatchedEngine ε)) (phase : Phase) : Prop :=
  Conversation session.config.inputStream phase session.engine.exchanges

/-- The state of a session is the phase of its conversation, and its last timestamp bounds
the stamps in it. -/
structure Converses (session : Session (WatchedEngine ε)) : Prop where
  resting : session.state ∈ Operation.configure.states → session.Said .idle
  configured : session.state = .configured →
    session.lifecycle.lastTimestamp = none ∧ session.Said .loaded
  running : session.state = .running →
    ∃ stamps, Bounds session.lifecycle.lastTimestamp stamps ∧ session.Said (.running stamps)

theorem Converses.of_resting (state : session.state ∈ Operation.configure.states)
    (said : session.Said .idle) : session.Converses where
  resting _ := said
  configured other := absurd other (SessionState.ne_configured_of_mem state)
  running other := absurd other (SessionState.ne_running_of_mem state)

theorem Converses.of_running {stamps : List Timestamp} (state : session.state = .running)
    (bounds : Bounds session.lifecycle.lastTimestamp stamps)
    (said : session.Said (.running stamps)) : session.Converses where
  resting other := absurd state (SessionState.ne_running_of_mem other)
  configured other := nomatch state.symm.trans other
  running _ := ⟨stamps, bounds, said⟩

theorem Converses.kept (converses : session.Converses)
    (lifecycle : next.lifecycle = session.lifecycle) (config : next.config = session.config)
    (exchanges : next.engine.exchanges = session.engine.exchanges) : next.Converses where
  resting := by
    rw [state, lifecycle, Said, config, exchanges]
    exact converses.resting
  configured := by
    rw [state, lifecycle, Said, config, exchanges]
    exact converses.configured
  running := by
    simp only [state, lifecycle, Said, config, exchanges]
    exact converses.running

theorem Converses.polled (converses : session.Converses) (polled : session.Polled next) :
    next.Converses := by
  induction polled with
  | once eased => exact converses.kept rfl rfl rfl
  | again before eased ih => exact ih.kept rfl rfl rfl

theorem Converses.step (converses : session.Converses)
    (step : session.Step action answer next) : next.Converses := by
  cases step with
  | rejected error rejected => exact converses.kept rfl rfl rfl
  | tended extended granted silent => exact converses.kept rfl rfl rfl
  | @misconfigured source text error result engine state read loaded =>
      refine .of_resting state ?_
      have said := (converses.resting state).load text
      rwa [loaded] at said
  | @configured source text engine state read loaded found =>
      have said := (converses.resting state).call (.load text) loaded (.loaded found)
      exact ⟨nofun, fun _ => ⟨rfl, said⟩, nofun⟩
  | bound configured capacity extended granted silent => exact converses.kept rfl rfl rfl
  | @launched engine configured begun =>
      have said := (converses.configured configured).2.launch session.bindings
      rw [begun] at said
      have bounds : Bounds session.lifecycle.lastTimestamp [] :=
        (converses.configured configured).1.symm ▸ rfl
      exact .of_running rfl bounds said
  | @aborted status engine configured begun =>
      have said := (converses.configured configured).2.launch session.bindings
      rw [begun] at said
      exact .of_resting (Operation.mem_configure_states.mpr (.inr rfl))
        (said.reload session.graph)
  | @withheld action input status engine checked given =>
      obtain ⟨running, later⟩ := Lifecycle.checkStamp_eq_ok_iff.mp checked
      obtain ⟨stamps, bounds, said⟩ := converses.running running
      have refused := said.call (.addPacket session.config.inputStream input) given
        (.unfed ((bounds.precedes_iff _).mp later))
      exact .of_running running bounds refused
  | @fed action answer input engine checked given granted records =>
      obtain ⟨running, later⟩ := Lifecycle.checkStamp_eq_ok_iff.mp checked
      obtain ⟨stamps, bounds, said⟩ := converses.running running
      have taken := said.call (.addPacket session.config.inputStream input) given
        (.fed ((bounds.precedes_iff _).mp later))
      exact .of_running running (bounds.accept later) taken
  | @drained engine outlets running ended =>
      obtain ⟨stamps, _, said⟩ := converses.running running
      have idle := said.endRun session.outlets
      rw [ended] at idle
      exact .of_resting (Operation.mem_configure_states.mpr (.inr rfl)) idle
  | dropped configured =>
      exact .of_resting (Operation.mem_configure_states.mpr (.inr rfl))
        (.givenUp (converses.configured configured).2)
  | polled polled granted silent => exact converses.polled polled

theorem Converses.after (converses : session.Converses) (actions : List Action) :
    (session.after actions).Converses := by
  induction actions generalizing session with
  | nil => exact converses
  | cons action rest ih => exact ih (converses.step (session.perform_step action))

theorem Converses.runOpen_iff (converses : session.Converses) :
    RunOpen session.engine.exchanges ↔ session.state = .running := by
  cases state : session.state with
  | running =>
      obtain ⟨stamps, _, said⟩ := converses.running state
      simp [said.runOpen_iff, Phase.hasRun]
  | configured => simp [(converses.configured state).2.runOpen_iff, Phase.hasRun]
  | unconfigured =>
      have said := converses.resting (Operation.mem_configure_states.mpr (.inl state))
      simp [said.runOpen_iff, Phase.hasRun]
  | stopped =>
      have said := converses.resting (Operation.mem_configure_states.mpr (.inr state))
      simp [said.runOpen_iff, Phase.hasRun]

theorem Converses.stop (converses : session.Converses) : session.stop.Said .idle := by
  cases state : session.state with
  | running =>
      obtain ⟨stamps, _, said⟩ := converses.running state
      simp only [Said, Session.stop, state]
      exact said.endRun session.outlets
  | configured =>
      simp only [Said, Session.stop, state]
      exact .givenUp (converses.configured state).2
  | unconfigured =>
      simp only [Said, Session.stop, state]
      exact converses.resting (Operation.mem_configure_states.mpr (.inl state))
  | stopped =>
      simp only [Said, Session.stop, state]
      exact converses.resting (Operation.mem_configure_states.mpr (.inr state))

/-- Whatever an engine answers, and whatever is asked of its session before the session is
given up: the engine is called in the order of the protocol. It has a run just while the
session is running. -/
theorem followsProtocol_after (engine : ε) (task : Task) (layout : Layout)
    (config : SessionConfig) (actions : List Action) :
    let session := (fresh ({ engine } : WatchedEngine ε) task layout config).after actions
    (RunOpen session.engine.exchanges ↔ session.state = .running) ∧
      FollowsProtocol config.inputStream session.stop.engine.exchanges := by
  intro session
  have initially : (fresh ({ engine } : WatchedEngine ε) task layout config).Converses :=
    .of_resting (Operation.mem_configure_states.mpr (.inl rfl)) .opened
  have converses : session.Converses := initially.after actions
  refine ⟨converses.runOpen_iff, ?_⟩
  have same : session.stop.config = config :=
    session.stop_step.config.trans (config_after ..)
  have said := converses.stop
  rw [Said, same] at said
  exact said.followsProtocol

end Session

end FrameFlow
