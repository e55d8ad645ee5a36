import FrameFlow.Proofs.Session.Draining
import FrameFlow.Proofs.Session.Settling

/-!
Whatever an engine refuses, a session that is at rest has let go of everything: its pollers
are cut off, nobody is told anything, and the next configuration finds an idle engine. Only
a stop that still waits for a poller to make room holds on.
-/

namespace FrameFlow

open FrontEngine (behind IsSound)

namespace Session

variable {ε : Type} [FrontEngine ε] {session next : Session ε} {action : Action}
  {answer : Answer}

structure Released (session : Session ε) : Prop where
  bindings : session.bindings.bindings = .empty
  observers : (behind session.engine).observers = .empty
  worker : (behind session.engine).worker = none

theorem Released.isOpen (released : session.Released) : session.isOpen = nobody := by
  funext channel
  have unbound : session.bindings.holds channel = false := by
    rw [BindingTable.holds, released.bindings]
    rfl
  have idle : GraphEngine.holds channel session.engine = false := by
    rw [FrontEngine.holds_behind]
    change (behind session.engine).heldObservers.any _ = false
    rw [ScriptedEngine.heldObservers, released.observers, released.worker]
    rfl
  rw [Session.isOpen, unbound, idle]
  rfl

theorem settle_of_idle (idle : (behind session.engine).worker = none) :
    behind session.settle.engine = behind session.engine ∧
      session.settle.outlets = session.outlets := by
  have still : (behind session.engine).advance SessionEngine.reaction session.outlets =
      (behind session.engine, session.outlets) := by simp only [ScriptedEngine.advance, idle]
  constructor
  · exact (FrontEngine.behind_advance ..).trans (congrArg Prod.fst still)
  · exact (FrontEngine.advance_outlets ..).trans (congrArg Prod.snd still)

theorem Released.lookedAt (released : session.Released) (outlets : Outlets) :
    (settle { session with outlets }).Released ∧
      (settle { session with outlets }).outlets = outlets := by
  obtain ⟨same, kept⟩ := @settle_of_idle ε _ { session with outlets } released.worker
  exact ⟨⟨released.bindings, by rw [same]; exact released.observers,
    by rw [same]; exact released.worker⟩, kept⟩

def packetPolls (poller : Poller) : Nat → Session ε → List (PollResult Packet)
  | 0, _ => []
  | number + 1, session =>
      let (result, next) := session.pollPackets poller
      result :: packetPolls poller number next

def outputPolls : Nat → OutputPoller → Session ε →
    List (Except SessionError (PollResult Observation))
  | 0, _, _ => []
  | number + 1, poller, session =>
      let (result, poller, next) := session.poll poller
      result :: outputPolls number poller next

theorem Released.packetPolls_eq (released : session.Released) (poller : Poller)
    (number : Nat) :
    packetPolls poller number session =
      andThen .closed ((session.outlets.queue poller.channel).map .ready) number := by
  induction number generalizing session with
  | zero => cases session.outlets.queue poller.channel <;> rfl
  | succ number ih =>
      have polled := poller.poll_nobody session.outlets
      obtain ⟨after, outlets⟩ := released.lookedAt (poller.poll nobody session.outlets).2
      have rest := ih after
      rw [outlets] at rest
      simp only [packetPolls, pollPackets, released.isOpen, rest]
      cases waiting : session.outlets.queue poller.channel with
      | nil =>
          simp only [waiting] at polled
          rw [polled.1, polled.2]
          rfl
      | cons packet others =>
          simp only [waiting] at polled
          rw [polled.1, polled.2]
          rfl

theorem Released.outputPolls_eq (released : session.Released) {poller : OutputPoller}
    (own : poller.HasOwnQueues) (number : Nat) :
    outputPolls number poller session =
      andThen (.ok .closed) ((poller.leftovers session.outlets).map poller.answerOf) number := by
  induction number generalizing session poller with
  | zero => cases poller.leftovers session.outlets <;> rfl
  | succ number ih =>
      obtain ⟨ownAfter, same, polled⟩ := OutputPoller.poll_nobody own session.outlets
      obtain ⟨after, outlets⟩ := released.lookedAt (poller.poll nobody session.outlets).2.2
      have rest := ih after ownAfter
      rw [outlets, same] at rest
      simp only [outputPolls, Session.poll, released.isOpen, rest]
      cases waiting : poller.leftovers session.outlets with
      | nil =>
          simp only [waiting] at polled
          rw [polled.1, polled.2]
          rfl
      | cons found others =>
          simp only [waiting] at polled
          rw [polled.1, polled.2]
          rfl

structure Quiet (told : List Event) (session : Session ε) : Prop where
  worker : (behind session.engine).worker = none
  state : session.state ≠ .running
  events : session.outlets.events = told

theorem Quiet.polled {told : List Event} (quiet : Quiet told session)
    (polled : session.Polled next) : Quiet told next := by
  induction polled with
  | @once outlets eased =>
      obtain ⟨same, kept⟩ := @settle_of_idle ε _ { session with outlets } quiet.worker
      exact ⟨same ▸ quiet.worker, quiet.state, by rw [kept, eased.events, quiet.events]⟩
  | @again middle outlets before eased ih =>
      obtain ⟨same, kept⟩ := @settle_of_idle ε _ { middle with outlets } ih.worker
      exact ⟨same ▸ ih.worker, ih.state, by rw [kept, eased.events, ih.events]⟩

theorem Quiet.step {told : List Event} (coupled : session.Coupled) (quiet : Quiet told session)
    (step : session.Step action answer next) (unstarted : (action, answer) ≠ (.start, .done)) :
    Quiet told next := by
  cases step with
  | rejected error rejected => exact ⟨quiet.worker, quiet.state, quiet.events⟩
  | tended extended granted silent =>
      exact ⟨quiet.worker, quiet.state, extended.events.trans quiet.events⟩
  | @misconfigured source text error result engine state read loaded =>
      obtain ⟨_, graph, observers, same, _⟩ := FrontEngine.load_spec text coupled.sound
      rw [loaded] at same
      exact ⟨by rw [same]; exact quiet.worker, quiet.state, quiet.events⟩
  | @configured source text engine state read loaded found =>
      obtain ⟨_, graph, observers, same, _⟩ := FrontEngine.load_spec text coupled.sound
      rw [loaded] at same
      exact ⟨by rw [same]; exact quiet.worker, nofun, quiet.events⟩
  | bound configured capacity extended granted silent =>
      exact ⟨quiet.worker, quiet.state, extended.events.trans quiet.events⟩
  | launched configured begun => exact absurd rfl unstarted
  | @aborted status engine configured begun =>
      obtain ⟨_, graph, sink, same⟩ := coupled.abort_spec configured begun
      exact ⟨by rw [same]; exact quiet.worker, nofun, quiet.events⟩
  | withheld checked given => exact absurd (state_of_checkStamp checked) quiet.state
  | fed checked given granted records => exact absurd (state_of_checkStamp checked) quiet.state
  | drained running ended => exact absurd running quiet.state
  | dropped configured => exact ⟨quiet.worker, nofun, quiet.events⟩
  | polled polled granted silent => exact quiet.polled polled

theorem Quiet.through {told : List Event} (coupled : session.Coupled)
    (quiet : Quiet told session) {actions : List Action}
    (unstarted : (.start, .done) ∉ session.history actions) :
    Quiet told (session.after actions) := by
  induction actions generalizing session with
  | nil => exact quiet
  | cons action rest ih =>
      have step := session.perform_step action
      obtain ⟨first, others⟩ := not_or.mp (mt List.mem_cons.mpr unstarted)
      exact ih (coupled.step step) (quiet.step coupled step (Ne.symm first)) others

theorem configure_of_parse {source : GraphSource} {text : String} {graph : Graph}
    (sound : IsSound session.engine) (run : (behind session.engine).run = none)
    (resting : session.state ∈ Operation.configure.states) (read : source.load = .ok text)
    (parsed : Graph.parse text = .ok graph)
    (named : graph.inputStream = session.config.inputStream) :
    (session.configure source).1 = .ok () := by
  obtain ⟨loaded, _, same⟩ := FrontEngine.perform_of_spared (.load text) sound rfl
    (ScriptedEngine.load_eq_ok_iff.mpr ⟨run, graph, parsed, rfl⟩)
  change (GraphEngine.load text session.engine).1 = .ok () at loaded
  change behind (GraphEngine.load text session.engine).2 = _ at same
  have found : GraphEngine.hasInput session.config.inputStream
      (GraphEngine.load text session.engine).2 = true := by
    rw [FrontEngine.hasInput_behind, same]
    exact beq_iff_eq.mpr named
  have allowed : session.lifecycle.require .configure = .ok () := if_pos resting
  simp only [Session.configure, allowed, read]
  rcases answered : GraphEngine.load text session.engine with ⟨result, engine⟩
  rw [answered] at loaded found
  obtain rfl : result = .ok () := loaded
  simp only [found, if_true]

theorem state_of_start_error {error : SessionError} (configured : session.state = .configured)
    (failed : session.start.1 = .error error) : session.start.2.state = .stopped := by
  have allowed : session.lifecycle.require .start = .ok () :=
    if_pos (List.mem_singleton.mpr configured)
  simp only [start, allowed] at failed ⊢
  rcases begun : launch session.bindings (GraphEngine.connectFaults session.engine) with
    ⟨result, engine⟩
  cases result with
  | error status => rfl
  | ok done => simp [begun] at failed

theorem state_of_stop (busy : session.state = .configured ∨ session.state = .running) :
    session.stop.state = .stopped := by
  rcases busy with configured | running
  · simp only [stop, configured]
    rfl
  · simp only [stop, running]
    rfl

/-- A handle on outputs that callers got, from a binding or from a poll with such a handle. -/
inductive HandedOut (history : List (Action × Answer)) : OutputPoller → Prop
  | bound {port poller} : (.bindPoller port, .outputs poller) ∈ history →
      HandedOut history poller
  | polled {before result poller} : HandedOut history before →
      (.poll before, .polled result poller) ∈ history → HandedOut history poller
  | filled {before buffer copied filled poller} : HandedOut history before →
      (.fill before buffer, .filled copied filled poller) ∈ history → HandedOut history poller

theorem exists_of_mem_history {actions : List Action}
    (known : (action, answer) ∈ session.history actions) :
    ∃ asked : Session ε, (asked.perform action).1 = answer := by
  induction actions generalizing session with
  | nil => contradiction
  | cons first rest ih =>
      rcases List.mem_cons.mp known with same | later
      · cases same
        exact ⟨session, rfl⟩
      · exact ih later

theorem hasOwnQueues_of_bindPoller {port : Port} {poller : OutputPoller}
    (bound : (session.perform (.bindPoller port)).1 = .outputs poller) :
    poller.HasOwnQueues := by
  simp only [perform, bindPoller, BindingTable.bindPoller, BindingTable.bindGated] at bound
  cases allowed : session.lifecycle.require .bindPoller with
  | error error => simp [allowed, answered] at bound
  | ok done =>
      simp only [allowed] at bound
      cases gating : port.presence with
      | none =>
          simp only [gating] at bound
          cases free : session.bindings.check port.output .poller with
          | error error => simp [free, answered] at bound
          | ok done =>
              simp only [free, answered, Answer.outputs.injEq] at bound
              rw [← bound]
              trivial
      | some presence =>
          simp only [gating] at bound
          cases free : session.bindings.check port.output .poller with
          | error error => simp [free, answered] at bound
          | ok done =>
              cases gateFree : session.bindings.check presence .poller with
              | error error => simp [free, gateFree, answered] at bound
              | ok done =>
                  simp only [free, gateFree, answered, Answer.outputs.injEq] at bound
                  rw [← bound]
                  -- The presence queue is made right after the payload queue.
                  simp [OutputPoller.HasOwnQueues, BindingTable.insertPoller,
                    Outlets.addChannel]

theorem hasOwnQueues_poll {poller : OutputPoller} (own : poller.HasOwnQueues)
    (session : Session ε) : (session.poll poller).2.1.HasOwnQueues := by
  obtain ⟨task, source⟩ := poller
  cases source with
  | plain source => trivial
  | gated source => exact own

theorem HandedOut.hasOwnQueues {actions : List Action} {poller : OutputPoller}
    (handed : HandedOut (session.history actions) poller) : poller.HasOwnQueues := by
  induction handed with
  | bound known =>
      obtain ⟨asked, bound⟩ := exists_of_mem_history known
      exact hasOwnQueues_of_bindPoller bound
  | polled before known ih =>
      obtain ⟨asked, polled⟩ := exists_of_mem_history known
      simp only [perform, Answer.polled.injEq] at polled
      exact polled.2 ▸ hasOwnQueues_poll ih asked
  | filled before known ih =>
      obtain ⟨asked, filled⟩ := exists_of_mem_history known
      simp only [perform, getOutput, Answer.filled.injEq] at filled
      rw [← filled.2.2, awaitOutput]
      have first := hasOwnQueues_poll ih asked
      split
      · rename_i polled
        rw [polled] at first
        exact hasOwnQueues_poll first _
      · exact first

section Unreliable

variable {session : Session (UnreliableEngine SessionEngine)}

/-- The latest stop has not returned: the engine has packets for a queue that is full, and
waits for its poller. -/
def StopWaits (session : Session (UnreliableEngine SessionEngine)) : Prop :=
  ∃ worker, session.engine.engine.worker = some worker ∧
    SessionEngine.HoldsUp worker session.outlets

/-- A session has let go of the pollers that were handed out in its history, and of all
listeners. -/
structure LetsGo (session : Session (UnreliableEngine SessionEngine))
    (history : List (Action × Answer)) : Prop where
  isOpen : ∀ channel, session.isOpen channel = false
  packets : ∀ poller number, packetPolls poller number session =
    andThen .closed ((session.outlets.queue poller.channel).map .ready) number
  outputs : ∀ poller number, HandedOut history poller →
    outputPolls number poller session =
      andThen (.ok .closed) ((poller.leftovers session.outlets).map poller.answerOf) number
  silent : ∀ actions, (.start, .done) ∉ session.history actions →
    (session.after actions).outlets.events = session.outlets.events

structure Restarts (session : Session (UnreliableEngine SessionEngine)) : Prop where
  stopped : session.state = .stopped
  run : session.engine.engine.run = none
  observers : session.engine.engine.observers = .empty
  configure : ∀ source text graph, source.load = .ok text → Graph.parse text = .ok graph →
    graph.inputStream = session.config.inputStream → (session.configure source).1 = .ok ()

theorem Settled.not_stopWaits (settled : session.Settled)
    (unbounded : session.config.pollerCapacity = none) : ¬ session.StopWaits :=
  fun ⟨worker, _, held⟩ => settled.not_holdsUp unbounded worker held

theorem Coupled.restarts (coupled : session.Coupled) (stopped : session.state = .stopped) :
    session.Restarts where
  stopped := stopped
  run := coupled.agrees.resting (by simp [stopped])
  observers := coupled.agrees.observers
  configure _ _ _ read parsed named :=
    configure_of_parse coupled.sound (coupled.agrees.resting (by simp [stopped]))
      (Operation.mem_configure_states.mpr (.inr stopped)) read parsed named

theorem Coupled.letsGo (coupled : session.Coupled)
    (resting : session.state ∈ Operation.configure.states)
    (idle : session.engine.engine.worker = none) {history : List (Action × Answer)}
    (own : ∀ poller, HandedOut history poller → poller.HasOwnQueues) :
    session.LetsGo history := by
  have unbound := coupled.agrees.cleared (SessionState.ne_configured_of_mem resting)
  have released : session.Released := ⟨unbound, coupled.agrees.observers, idle⟩
  have quiet : Quiet session.outlets.events session :=
    ⟨idle, SessionState.ne_running_of_mem resting, rfl⟩
  exact {
    isOpen := fun channel => congrFun released.isOpen channel
    packets := released.packetPolls_eq
    outputs := fun poller number handed => released.outputPolls_eq (own poller handed) number
    silent := fun actions unstarted => (quiet.through coupled unstarted).events }

/-- Whichever calls fail before they get to the engine, as long as graphs are loaded and runs
are cancelled: a session at rest has let go of everything, or its stop still waits for room
in a full queue, until callers give up pollers. A stop, or a start that fails, leaves it
ready for the next graph. -/
theorem letsGo_after (plan : FailurePlan) (spared : plan.SparesCleanup) (task : Task)
    (layout : Layout) (config : SessionConfig) (actions : List Action) :
    let engine : UnreliableEngine SessionEngine := { engine := {}, plan }
    let session := (fresh engine task layout config).after actions
    let history := (fresh engine task layout config).history actions
    (session.state ∈ Operation.configure.states →
      (session.LetsGo history ∨ session.StopWaits) ∧
        ∃ given : List Poller,
          let freed := session.after (given.map .releasePackets)
          freed.state = session.state ∧ freed.LetsGo history) ∧
      (config.pollerCapacity = none → ¬ session.StopWaits) ∧
      (session.state = .configured ∨ session.state = .running → session.stop.Restarts) ∧
      (session.state = .configured → ∀ error, session.start.1 = .error error →
        session.start.2.Restarts) := by
  intro engine session history
  have initially : (fresh engine task layout config).Coupled :=
    coupled_fresh spared rfl rfl task layout config
  have settled : session.Settled :=
    .through initially (settled_fresh rfl task layout config) actions
  have coupled : session.Coupled := initially.after actions
  have own : ∀ poller, HandedOut history poller → poller.HasOwnQueues :=
    fun _ handed => handed.hasOwnQueues
  -- A worker that is left over decides between the first two.
  refine ⟨fun resting => ⟨?_, ?_⟩, fun unbounded => ?_, fun busy => ?_,
    fun configured error failed => ?_⟩
  · cases left : session.engine.engine.worker with
    | none => exact .inl (coupled.letsGo resting left own)
    | some worker =>
        have idle := SessionState.ne_running_of_mem resting
        exact .inr ⟨worker, left, settled.holdsUp coupled idle left⟩
  · obtain ⟨given, freed, same⟩ :=
      settled.exists_freed coupled (SessionState.ne_running_of_mem resting)
    have state : (session.after (given.map .releasePackets)).state = session.state :=
      congrArg Lifecycle.state same
    refine ⟨given, state, (coupled.after _).letsGo ?_ freed own⟩
    rw [state]
    exact resting
  · have same : session.config = config := config_after _ actions
    exact settled.not_stopWaits (by rw [same, unbounded])
  · exact (coupled.step session.stop_step).restarts (state_of_stop busy)
  · have step := coupled.step session.start_step
    rw [perform, answered_snd] at step
    exact step.restarts (state_of_start_error configured failed)

/-- A run that could not close its input is cancelled; the packet in the queue of its poller
is there to be taken, and then nothing follows. -/
theorem letsGo_after_cancelled :
    let plan : FailurePlan := fun call number =>
      if call = .closeInput ∧ number = 1 then some ⟨.unavailable, "busy"⟩ else none
    let engine : UnreliableEngine SessionEngine := { engine := {}, plan }
    let graph : GraphSource := .text ("\x7b\"output_streams\":\x7b\"seen\":\"presence\"\x7d," ++
      "\"frames\":[\x7b\"emit\":[\x7b\"stream\":\"seen\"," ++
      "\"value\":\x7b\"presence\":true\x7d\x7d]\x7d]\x7d")
    let session := (fresh engine .detection [] {}).after
      [.configure graph, .pollStream "seen", .start, .feedAt ⟨.clamp 7, .black⟩, .stop]
    session.state = .stopped ∧ session.engine.calls.count .cancel = 1 ∧
      packetPolls ⟨"seen", 0⟩ 3 session =
        [.ready ⟨.clamp 7, .presence true⟩, .closed, .closed] := by
  intro plan engine graph session
  have spared : plan.SparesCleanup := fun number => ⟨rfl, rfl⟩
  have stopped : session.state = .stopped := by decide +kernel
  have queued : session.outlets.queue 0 = [⟨.clamp 7, .presence true⟩] := by decide +kernel
  obtain ⟨lets, unbounded, _, _⟩ := letsGo_after plan spared .detection [] {}
    [.configure graph, .pollStream "seen", .start, .feedAt ⟨.clamp 7, .black⟩, .stop]
  have gone := (lets (Operation.mem_configure_states.mpr (.inr stopped))).1.resolve_right
    (unbounded rfl)
  refine ⟨stopped, by decide +kernel, ?_⟩
  have polls := gone.packets ⟨"seen", 0⟩ 3
  rw [queued] at polls
  exact polls

end Unreliable

end Session

end FrameFlow
