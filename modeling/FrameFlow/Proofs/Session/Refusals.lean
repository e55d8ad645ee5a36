import FrameFlow.Proofs.Engine.Worlds
import FrameFlow.Proofs.Session.Agreement

/-!
What is refused leaves no trace. A refused operation may have changed how many frames were
rejected, and which graph the engine has loaded while nothing is configured; no later
operation can tell.
-/

namespace FrameFlow

theorem SessionEngine.reaction_ignores (rejected : Tally String) :
    SessionEngine.reaction.Ignores (Outlets.withRejected rejected) where
  deliver stream binding packet outlets := by
    cases binding with
    | output task slot listener =>
        simp only [SessionEngine.reaction, Outlets.deliver, Outlets.handle]
        cases task.decode stream packet.payload <;> rfl
    | packets listener => rfl
    | preview listener =>
        simp only [SessionEngine.reaction, Outlets.deliver, Outlets.handle]
        cases packet.payload <;> rfl
    | latest place =>
        simp only [SessionEngine.reaction, Outlets.deliver, Outlets.handle]
        cases packet.payload <;> rfl
    | poller channel =>
        have same : (outlets.withRejected rejected).channels = outlets.channels := rfl
        simp only [SessionEngine.reaction, Outlets.deliver, Outlets.handle, Outlets.send,
          Outlets.countDispatched, same]
        cases found : outlets.channels[channel]? with
        | none => rfl
        | some queue =>
            simp only
            cases queue.send packet <;> rfl
  report _ fault outlets := by
    cases listening : outlets.errorListener with
    | none => simp [SessionEngine.reaction, Outlets.report, Outlets.withRejected, listening]
    | some listener =>
        simp [SessionEngine.reaction, Outlets.report, Outlets.withRejected, listening, Outlets.tell]

def Action.polls : Action → Bool
  | .poll _ | .fill _ _ | .release _ | .pollPackets _ | .releasePackets _ => true
  | _ => false

namespace Session

/-- What can be seen of a session: everything but how many frames were rejected. -/
structure View where
  lifecycle : Lifecycle
  outlets : Outlets

def view {ε : Type} (session : Session ε) : View :=
  ⟨session.lifecycle, session.outlets.withRejected {}⟩

def course {ε : Type} [GraphEngine ε] (session : Session ε) : List Action → List (Answer × View)
  | [] => []
  | action :: rest =>
      let (answer, next) := session.perform action
      (answer, next.view) :: next.course rest

theorem answered_map {ε : Type} (granted : α → Answer) (change : Session ε → Session ε)
    (outcome : Except SessionError α × Session ε) :
    answered granted (outcome.map id change) = (answered granted outcome).map id change := by
  obtain ⟨result, next⟩ := outcome
  cases result <;> rfl

variable {session next : Session SessionEngine} {action : Action} (rejected : Tally String)

def withRejected (session : Session SessionEngine) : Session SessionEngine :=
  { session with outlets := session.outlets.withRejected rejected }

def withGraph (graph : Option Graph) (session : Session SessionEngine) : Session SessionEngine :=
  { session with engine := { session.engine with graph } }

theorem settle_withRejected (session : Session SessionEngine) :
    (session.withRejected rejected).settle = session.settle.withRejected rejected := by
  have ignored := ScriptedEngine.advance_ignored (SessionEngine.reaction_ignores rejected)
    session.engine session.outlets
  exact congrArg (fun worked : SessionEngine × Outlets =>
    { session with engine := worked.1, outlets := worked.2 }) ignored

theorem configure_withRejected (source : GraphSource) :
    (session.withRejected rejected).configure source =
      (session.configure source).map id (withRejected rejected) := by
  dsimp only [configure, withRejected]
  cases session.lifecycle.require .configure with
  | error error => rfl
  | ok done =>
      cases source.load with
      | error error => rfl
      | ok text =>
          simp only
          cases GraphEngine.load text session.engine with
          | mk result engine =>
              cases result with
              | error status => rfl
              | ok done =>
                  simp only
                  split <;> rfl

theorem bindStream_withRejected (session : Session SessionEngine) (operation : Operation)
    (stream : String) (binding : Binding) :
    (session.withRejected rejected).bindStream operation stream binding =
      (session.bindStream operation stream binding).map id (withRejected rejected) := by
  dsimp only [bindStream, withRejected]
  cases session.lifecycle.require operation with
  | error error => rfl
  | ok done =>
      simp only
      cases session.bindings.bindCallback stream binding <;> rfl

theorem previewLatest_withRejected :
    (session.withRejected rejected).previewLatest =
      session.previewLatest.map id (withRejected rejected) := by
  dsimp only [previewLatest, bindStream, withRejected, Outlets.addPlace, Outlets.withRejected]
  cases session.lifecycle.require .bindPreview with
  | error error => rfl
  | ok done =>
      simp only
      cases session.bindings.bindCallback session.config.previewStream
        (.latest session.outlets.places.length) <;> rfl

theorem bindPoller_withRejected (port : Port) :
    (session.withRejected rejected).bindPoller port =
      (session.bindPoller port).map id (withRejected rejected) := by
  dsimp only [bindPoller, withRejected, BindingTable.bindPoller, BindingTable.bindGated]
  cases session.lifecycle.require .bindPoller with
  | error error => rfl
  | ok done =>
      cases port.presence with
      | none =>
          simp only
          cases session.bindings.check port.output .poller <;> rfl
      | some presence =>
          simp only
          cases session.bindings.check port.output .poller with
          | error error => rfl
          | ok done =>
              simp only
              cases session.bindings.check presence .poller <;> rfl

theorem pollStream_withRejected (stream : String) :
    (session.withRejected rejected).pollStream stream =
      (session.pollStream stream).map id (withRejected rejected) := by
  dsimp only [pollStream, withRejected, BindingTable.bindPoller]
  cases session.lifecycle.require .pollStream with
  | error error => rfl
  | ok done =>
      simp only
      cases session.bindings.check stream .poller <;> rfl

theorem start_withRejected :
    (session.withRejected rejected).start = session.start.map id (withRejected rejected) := by
  dsimp only [start, withRejected]
  cases session.lifecycle.require .start with
  | error error => rfl
  | ok done =>
      simp only
      rcases launch session.bindings (GraphEngine.connectFaults session.engine) with
        ⟨result, engine⟩
      cases result with
      | error status => rfl
      | ok done =>
          let begun : Session SessionEngine := { session with
            bindings := session.bindings.clear
            engine
            lifecycle := session.lifecycle.running }
          exact congrArg (Prod.mk _) (begun.settle_withRejected rejected)

theorem feedAt_withRejected (session : Session SessionEngine) (input : StampedFrame) :
    ∃ counted, (session.withRejected rejected).feedAt input =
      (session.feedAt input).map id (withRejected counted) := by
  dsimp only [feedAt, withRejected]
  cases session.lifecycle.checkStamp input.timestamp with
  | error error => exact ⟨rejected.bump error.label, rfl⟩
  | ok done =>
      simp only
      rcases GraphEngine.addPacket session.config.inputStream input session.engine with
        ⟨result, engine⟩
      cases result with
      | error status => exact ⟨rejected.bump "feed_rejected", rfl⟩
      | ok done =>
          let fed : Session SessionEngine := { session with
            engine
            lifecycle := session.lifecycle.accepted input.timestamp
            outlets := session.outlets.countFed }
          exact ⟨rejected, congrArg (Prod.mk _) (fed.settle_withRejected rejected)⟩

theorem advance_withRejected (engine : SessionEngine) (outlets : Outlets) :
    GraphEngine.advance engine (outlets.withRejected rejected) =
      (GraphEngine.advance engine outlets).map id (Outlets.withRejected rejected) :=
  ScriptedEngine.advance_ignored (SessionEngine.reaction_ignores rejected) engine outlets

theorem endRun_withRejected (inputStream : String) (engine : SessionEngine) (outlets : Outlets) :
    endRun inputStream engine (outlets.withRejected rejected) =
      (endRun inputStream engine outlets).map id (Outlets.withRejected rejected) := by
  unfold endRun
  rcases GraphEngine.closeInput inputStream engine with ⟨result, closed⟩
  cases result with
  | error status => exact advance_withRejected ..
  | ok done =>
      simp only [advance_withRejected, Prod.map, id]
      rcases GraphEngine.waitUntilDone (GraphEngine.advance closed outlets).1 with
        ⟨result, waited⟩
      cases result <;> rfl

theorem stop_withRejected :
    (session.withRejected rejected).stop = session.stop.withRejected rejected := by
  dsimp only [stop, withRejected, state]
  cases session.lifecycle.state with
  | running => simp only [endRun_withRejected, Prod.map, id]
  | configured => rfl
  | unconfigured => rfl
  | stopped => rfl

/-- A change to sessions that pollers do not notice: it leaves their queues alone, and the
engine goes on as without it. -/
structure Unnoticed (change : Session SessionEngine → Session SessionEngine)
    (outside : Outlets → Outlets) : Prop where
  outlets : ∀ session, (change session).outlets = outside session.outlets
  isOpen : ∀ session, (change session).isOpen = session.isOpen
  channels : ∀ outlets, (outside outlets).channels = outlets.channels
  withChannels : ∀ outlets channels,
    { outside outlets with channels } = outside { outlets with channels }
  settle : ∀ session outlets, settle { change session with outlets := outside outlets } =
    change (settle { session with outlets })

section Polling

variable {change : Session SessionEngine → Session SessionEngine} {outside : Outlets → Outlets}

theorem Unnoticed.setPackets (unnoticed : Unnoticed change outside) (outlets : Outlets)
    (channel : ChannelId) (packets : List Packet) :
    (outside outlets).setPackets channel packets =
      outside (outlets.setPackets channel packets) := by
  rw [Outlets.setPackets, unnoticed.channels, unnoticed.withChannels, Outlets.setPackets]

theorem Unnoticed.inbox (unnoticed : Unnoticed change outside) (outlets : Outlets)
    (isOpen : ChannelId → Bool) (channel : ChannelId) :
    (outside outlets).inbox isOpen channel = outlets.inbox isOpen channel := by
  rw [Outlets.inbox, unnoticed.channels, Outlets.inbox]

theorem Unnoticed.detach (unnoticed : Unnoticed change outside) (outlets : Outlets)
    (channel : ChannelId) :
    (outside outlets).detach channel = outside (outlets.detach channel) := by
  rw [Outlets.detach, unnoticed.channels, unnoticed.withChannels, Outlets.detach]

theorem Unnoticed.pollRaw (unnoticed : Unnoticed change outside) (poller : Poller)
    (isOpen : ChannelId → Bool) (outlets : Outlets) :
    poller.poll isOpen (outside outlets) = (poller.poll isOpen outlets).map id outside := by
  simp only [Poller.poll, unnoticed.inbox, unnoticed.setPackets, Prod.map, id]

theorem Unnoticed.pollOutput (unnoticed : Unnoticed change outside) (poller : OutputPoller)
    (isOpen : ChannelId → Bool) (outlets : Outlets) :
    poller.poll isOpen (outside outlets) =
      (poller.poll isOpen outlets).map id (Prod.map id outside) := by
  obtain ⟨task, source⟩ := poller
  cases source with
  | plain source =>
      simp only [OutputPoller.poll, OutputPoller.pollSource, unnoticed.pollRaw, Prod.map, id]
  | gated source =>
      simp only [OutputPoller.poll, OutputPoller.pollSource, GatedPoller.poll, GatedPoller.put,
        GatedPoller.gate, unnoticed.inbox, unnoticed.setPackets, Prod.map, id]

theorem Unnoticed.poll (unnoticed : Unnoticed change outside) (poller : OutputPoller)
    (session : Session SessionEngine) :
    (change session).poll poller = (session.poll poller).map id (Prod.map id change) := by
  simp only [Session.poll, unnoticed.outlets, unnoticed.isOpen, unnoticed.pollOutput,
    unnoticed.settle, Prod.map, id]

theorem Unnoticed.awaitOutput (unnoticed : Unnoticed change outside) (poller : OutputPoller)
    (session : Session SessionEngine) :
    (change session).awaitOutput poller =
      (session.awaitOutput poller).map id (Prod.map id change) := by
  rw [Session.awaitOutput, Session.awaitOutput, unnoticed.poll]
  rcases session.poll poller with ⟨result, next, polled⟩
  cases result with
  | error error => rfl
  | ok outcome =>
      cases outcome with
      | empty => exact unnoticed.poll next polled
      | ready observation => rfl
      | closed => rfl

theorem Unnoticed.perform (unnoticed : Unnoticed change outside) (polls : action.polls = true)
    (session : Session SessionEngine) :
    (change session).perform action = (session.perform action).map id change := by
  cases action with
  | poll poller => simp only [Session.perform, unnoticed.poll, Prod.map, id]
  | fill poller buffer =>
      simp only [Session.perform, getOutput, unnoticed.awaitOutput, Prod.map, id]
  | release poller =>
      obtain ⟨task, source⟩ := poller
      cases source <;>
        simp only [Session.perform, release, OutputPoller.detach, GatedPoller.detach,
          Poller.detach, unnoticed.outlets, unnoticed.detach, unnoticed.settle, Prod.map, id]
  | pollPackets poller =>
      simp only [Session.perform, pollPackets, unnoticed.outlets, unnoticed.isOpen,
        unnoticed.pollRaw, unnoticed.settle, Prod.map, id]
  | releasePackets poller =>
      simp only [Session.perform, releasePackets, Poller.detach, unnoticed.outlets,
        unnoticed.detach, unnoticed.settle, Prod.map, id]
  | _ => contradiction

theorem unnoticed_withRejected :
    Unnoticed (withRejected rejected) (Outlets.withRejected rejected) where
  outlets _ := rfl
  isOpen _ := rfl
  channels _ := rfl
  withChannels _ _ := rfl
  settle session outlets := settle_withRejected rejected { session with outlets }

theorem unnoticed_withGraph (graph : Option Graph) : Unnoticed (withGraph graph) id where
  outlets _ := rfl
  isOpen _ := rfl
  channels _ := rfl
  withChannels _ _ := rfl
  settle session outlets := by
    have worked : GraphEngine.advance { session.engine with graph } outlets =
        (GraphEngine.advance session.engine outlets).map
          (fun engine => { engine with graph }) id :=
      ScriptedEngine.advance_withGraph ..
    simp only [Session.settle, withGraph, id, worked, Prod.map]

end Polling

theorem perform_withRejected (session : Session SessionEngine) (action : Action) :
    ∃ counted, (session.withRejected rejected).perform action =
      (session.perform action).map id (withRejected counted) := by
  have fed := session.feedAt_withRejected rejected
  have bound := session.bindStream_withRejected rejected
  cases action with
  | configure source =>
      exact ⟨rejected, by rw [perform, configure_withRejected, answered_map, perform]⟩
  | bindCallback port listener =>
      exact ⟨rejected, by rw [perform, bindCallback, bound, answered_map]; rfl⟩
  | observeStream stream listener =>
      exact ⟨rejected, by rw [perform, observeStream, bound, answered_map]; rfl⟩
  | bindPreview listener =>
      exact ⟨rejected, by rw [perform, bindPreview, bound, answered_map]; rfl⟩
  | previewLatest =>
      exact ⟨rejected, by rw [perform, previewLatest_withRejected, answered_map, perform]⟩
  | bindPoller port =>
      exact ⟨rejected, by rw [perform, bindPoller_withRejected, answered_map, perform]⟩
  | pollStream stream =>
      exact ⟨rejected, by rw [perform, pollStream_withRejected, answered_map, perform]⟩
  | start => exact ⟨rejected, by rw [perform, start_withRejected, answered_map, perform]⟩
  | feed frame now =>
      obtain ⟨counted, same⟩ := fed ⟨session.lifecycle.stamp now, frame⟩
      refine ⟨counted, ?_⟩
      have stamped : (session.withRejected rejected).lifecycle = session.lifecycle := rfl
      rw [perform, feed, stamped, same, perform, feed]
      rcases session.feedAt ⟨session.lifecycle.stamp now, frame⟩ with ⟨result, next⟩
      cases result <;> rfl
  | feedAt input =>
      obtain ⟨counted, same⟩ := fed input
      exact ⟨counted, by rw [perform, same, answered_map, perform]⟩
  | stop => exact ⟨rejected, by rw [perform, stop_withRejected, perform]; rfl⟩
  | listenForErrors listener => exact ⟨rejected, rfl⟩
  | lookAt place => exact ⟨rejected, rfl⟩
  | take place => exact ⟨rejected, rfl⟩
  | _ => exact ⟨rejected, (unnoticed_withRejected rejected).perform rfl session⟩

theorem perform_withGraph (resting : session.state ∈ Operation.configure.states)
    (graph : Option Graph) (other : ∀ source, action ≠ .configure source) :
    (session.withGraph graph).perform action =
      (session.perform action).map id (withGraph graph) := by
  have forbidden : ∀ operation, operation ≠ .configure →
      session.lifecycle.require operation = .error (.lifecycle operation session.state) :=
    fun _ different => require_of_resting resting different
  have bound : ∀ operation stream binding, operation ≠ .configure →
      (session.withGraph graph).bindStream operation stream binding =
        (session.bindStream operation stream binding).map id (withGraph graph) := by
    intro operation stream binding different
    simp only [bindStream, withGraph, forbidden operation different]
    rfl
  have fed : ∀ input, (session.withGraph graph).feedAt input =
      (session.feedAt input).map id (withGraph graph) := by
    intro input
    simp only [feedAt, withGraph, Lifecycle.checkStamp, forbidden .feed (by decide)]
    rfl
  cases action with
  | configure source => exact absurd rfl (other source)
  | bindCallback port listener =>
      rw [perform, bindCallback, bound _ _ _ (by decide), answered_map]
      rfl
  | observeStream stream listener =>
      rw [perform, observeStream, bound _ _ _ (by decide), answered_map]
      rfl
  | bindPreview listener =>
      rw [perform, bindPreview, bound _ _ _ (by decide), answered_map]
      rfl
  | previewLatest =>
      simp only [perform, previewLatest, bindStream, withGraph, forbidden .bindPreview (by decide)]
      rfl
  | bindPoller port =>
      simp only [perform, bindPoller, withGraph, forbidden .bindPoller (by decide)]
      rfl
  | pollStream stream =>
      simp only [perform, pollStream, withGraph, forbidden .pollStream (by decide)]
      rfl
  | start =>
      simp only [perform, start, withGraph, forbidden .start (by decide)]
      rfl
  | feed frame now =>
      have stamped : (session.withGraph graph).lifecycle = session.lifecycle := rfl
      rw [perform, feed, stamped, fed, perform, feed]
      rcases session.feedAt ⟨session.lifecycle.stamp now, frame⟩ with ⟨result, next⟩
      cases result <;> rfl
  | feedAt input => rw [perform, fed, answered_map, perform]
  | stop =>
      have rest : session.lifecycle.state = .unconfigured ∨ session.lifecycle.state = .stopped :=
        Operation.mem_configure_states.mp resting
      rcases rest with rest | rest <;>
        simp only [perform, stop, state, withGraph, rest, Prod.map, id]
  | listenForErrors listener => rfl
  | lookAt place => rfl
  | take place => rfl
  | _ => exact (unnoticed_withGraph graph).perform rfl session

theorem load_withGraph (engine : SessionEngine) (graph : Option Graph) (text : String) :
    GraphEngine.load text { engine with graph } = GraphEngine.load text engine ∨
      ∃ status, GraphEngine.load text engine = (.error status, engine) ∧
        GraphEngine.load text { engine with graph } = (.error status, { engine with graph }) := by
  obtain ⟨before, observers, sink, run, worker⟩ := engine
  dsimp only [GraphEngine.load, ScriptedEngine.load, ScriptedEngine.isRunning]
  cases run with
  | some run => exact .inr ⟨_, rfl, rfl⟩
  | none =>
      cases Graph.parse text with
      | error violation => exact .inr ⟨_, rfl, rfl⟩
      | ok parsed => exact .inl rfl

theorem configure_withGraph (graph : Option Graph) (source : GraphSource)
    (resting : session.state ∈ Operation.configure.states) :
    ∃ loaded, (session.withGraph graph).configure source =
        (session.configure source).map id (withGraph loaded) ∧
      ((session.configure source).2.state ∈ Operation.configure.states ∨
        loaded = (session.configure source).2.engine.graph) := by
  dsimp only [configure, withGraph]
  cases session.lifecycle.require .configure with
  | error error => exact ⟨graph, rfl, .inl resting⟩
  | ok done =>
      cases source.load with
      | error error => exact ⟨graph, rfl, .inl resting⟩
      | ok text =>
          rcases load_withGraph session.engine graph text with same | ⟨status, refused, kept⟩
          · simp only [same]
            rcases GraphEngine.load text session.engine with ⟨result, engine⟩
            cases result with
            | error status => exact ⟨engine.graph, rfl, .inr rfl⟩
            | ok done =>
                refine ⟨engine.graph, ?_⟩
                simp only
                split <;> exact ⟨rfl, .inr rfl⟩
          · simp only [refused, kept]
            exact ⟨graph, rfl, .inl resting⟩

/-- No caller can tell two sessions apart that differ in how many frames were rejected and,
while nothing is configured, in the loaded graph. -/
def Alike (session other : Session SessionEngine) : Prop :=
  ∃ graph rejected, other = (session.withGraph graph).withRejected rejected ∧
    (session.state ∈ Operation.configure.states ∨ graph = session.engine.graph)

theorem Alike.view {other : Session SessionEngine} (alike : session.Alike other) :
    session.view = other.view := by
  obtain ⟨graph, rejected, rfl, _⟩ := alike
  rfl

theorem Alike.perform {other : Session SessionEngine} (alike : session.Alike other)
    (action : Action) :
    (session.perform action).1 = (other.perform action).1 ∧
      (session.perform action).2.Alike (other.perform action).2 := by
  obtain ⟨graph, rejected, rfl, hidden⟩ := alike
  obtain ⟨counted, recounted⟩ :=
    perform_withRejected rejected (session.withGraph graph) action
  rw [recounted]
  -- Another graph is hidden until a configuration, which does not look at it either.
  rcases hidden with resting | same
  · by_cases configures : ∃ source, action = .configure source
    · obtain ⟨source, rfl⟩ := configures
      obtain ⟨loaded, configured, known⟩ := configure_withGraph graph source resting
      have reloaded : (session.withGraph graph).perform (.configure source) =
          (session.perform (.configure source)).map id (withGraph loaded) := by
        rw [Session.perform, configured, answered_map, Session.perform]
      have after : (session.perform (.configure source)).2 = (session.configure source).2 :=
        answered_snd ..
      rw [reloaded]
      exact ⟨rfl, loaded, counted, rfl, after ▸ known⟩
    · have other : ∀ source, action ≠ .configure source :=
        fun source same => configures ⟨source, same⟩
      have next := (session.perform_step action).resting resting other
      rw [perform_withGraph resting graph other]
      exact ⟨rfl, graph, counted, rfl, .inl next⟩
  · subst same
    exact ⟨rfl, _, counted, rfl, .inr rfl⟩

theorem Alike.course {other : Session SessionEngine} (alike : session.Alike other)
    (actions : List Action) : session.course actions = other.course actions := by
  induction actions generalizing session other with
  | nil => rfl
  | cons action rest ih =>
      obtain ⟨same, next⟩ := alike.perform action
      simp only [Session.course, same, next.view, ih next]

theorem alike_refused (coupled : session.Coupled) {error : SessionError}
    (step : session.Step action (.refused error) next) (other : action ≠ .start) :
    next.Alike session := by
  have agrees := coupled.agrees
  cases step with
  | rejected error rejected => exact ⟨session.engine.graph, _, rfl, .inr rfl⟩
  | tended extended granted silent => contradiction
  | bound configured capacity extended granted silent => contradiction
  | aborted configured begun => contradiction
  | fed checked given granted records => contradiction
  | polled polled granted silent => contradiction
  | @misconfigured source text error result engine state read loaded =>
      refine ⟨session.engine.graph, session.outlets.metrics.framesRejected, ?_, .inl state⟩
      cases result with
      | error status =>
          obtain rfl : engine = session.engine :=
            (FrontEngine.behind_of_error (.load text) coupled.sound loaded).2
          rfl
      | ok done =>
          have performed := (FrontEngine.behind_of_ok (.load text) coupled.sound loaded).2
          obtain ⟨_, graph, _, same⟩ := ScriptedEngine.load_eq_ok_iff.mp performed
          -- Loading forgets observers, but there were none to forget.
          have observers : session.engine.observers = .empty := agrees.observers
          obtain rfl : engine = { session.engine with graph := some graph } := by
            rw [← observers] at same
            exact same
          rfl
  | @withheld _ input status engine checked given =>
      obtain rfl : engine = session.engine := (FrontEngine.behind_of_error
        (.addPacket session.config.inputStream input) coupled.sound given).2
      exact ⟨session.engine.graph, session.outlets.metrics.framesRejected, rfl, .inr rfl⟩

theorem course_append (session : Session SessionEngine) (before rest : List Action) :
    session.course (before ++ rest) =
      session.course before ++ (session.after before).course rest := by
  induction before generalizing session with
  | nil => rfl
  | cons action others ih => exact congrArg (List.cons _) (ih _)

theorem length_course (session : Session SessionEngine) (actions : List Action) :
    (session.course actions).length = actions.length := by
  induction actions generalizing session with
  | nil => rfl
  | cons action rest ih => exact congrArg (· + 1) (ih _)

/-- An operation that was refused, unless it was a start, might as well have been left out:
every other one is answered as without it, and nothing but the count of rejected frames
looks different after any of them. -/
theorem course_without_refused (task : Task) (layout : Layout) (config : SessionConfig)
    (before rest : List Action) {action : Action}
    (refused :
      (((opened task layout config).after before).perform action).1.isRefusal = true)
    (other : action ≠ .start) :
    ((opened task layout config).course (before ++ action :: rest)).eraseIdx before.length =
      (opened task layout config).course (before ++ rest) := by
  have initially : (opened task layout config).Coupled :=
    coupled_fresh trivial rfl rfl task layout config
  have coupled := initially.after before
  have step := perform_step ((opened task layout config).after before) action
  obtain ⟨error, answer⟩ := Answer.isRefusal_iff.mp refused
  rw [answer] at step
  have same := (alike_refused coupled step other).course rest
  have position := length_course (opened task layout config) before
  rw [course_append, course_append, Session.course,
    List.eraseIdx_append_of_length_le (Nat.le_of_eq position), position, Nat.sub_self,
    List.eraseIdx_cons_zero, same]

/-- A graph without the session's input stream is loaded and then refused; the session goes
on to run the graph that it is given next. -/
theorem course_without_refused_graph :
    let frame : Action := .feedAt ⟨.clamp 4, .black⟩
    let usual : Action := .configure (.text "\x7b\x7d")
    let lacking : Action := .configure (.text "\x7b\"input_stream\":\"camera\"\x7d")
    let before := [usual, .start, frame, .stop]
    let session := (opened .detection [] {}).after before
    (session.perform lacking).2.engine.hasInput "camera" = true ∧
      ((opened .detection [] {}).course
          (before ++ lacking :: [usual, .start, frame])).eraseIdx 4 =
        (opened .detection [] {}).course (before ++ [usual, .start, frame]) := by
  intro frame usual lacking before session
  have refused : (session.perform lacking).1.isRefusal = true := by decide +kernel
  exact ⟨by decide +kernel,
    course_without_refused .detection [] {} before [usual, .start, frame] refused nofun⟩

end Session

end FrameFlow
