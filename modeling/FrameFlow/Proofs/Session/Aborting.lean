import FrameFlow.Proofs.Session.Granting
import FrameFlow.Proofs.Session.Renewal

/-!
A start is all or nothing. Either every binding takes effect, each on its own stream, or the
first stream in byte order that the graph lacks is named, and nothing that was bound is ever
reached again.
-/

namespace FrameFlow

namespace Outlets

/-- The queues and places that were made since then are empty. -/
structure Unfilled (start outlets : Outlets) : Prop where
  queues : ∀ channel, start.channels.length ≤ channel → outlets.queue channel = []
  places : ∀ place, start.places.length ≤ place → outlets.place place = {}

theorem unfilled_self (outlets : Outlets) : outlets.Unfilled outlets where
  queues channel beyond := by
    rw [queue, inbox, List.getElem?_eq_none beyond]
  places place beyond := by
    rw [Outlets.place, List.getElem?_eq_none beyond]
    rfl

end Outlets

/-- Bindings of old queues and places leave the new ones empty. -/
theorem brokenOnlyBy_unfilled (start : Outlets) :
    BrokenOnlyBy (¬ ·.IsMade start) start.Unfilled where
  tended tends unfilled :=
    ⟨fun channel beyond => tends.queues channel (unfilled.queues channel beyond),
      fun place beyond => tends.places place (unfilled.places place beyond)⟩
  delivered := by
    intro stream binding packet outlets answer after old unfilled delivered
    have made : binding.IsMade start := Classical.not_not.mp old
    refine ⟨fun channel beyond => ?_, fun place beyond => ?_⟩
    · refine List.eq_nil_iff_forall_not_mem.mpr fun other member => ?_
      rcases Outlets.mem_queue_of_deliver delivered member with earlier | ⟨rfl, _⟩
      · rw [unfilled.queues channel beyond] at earlier
        contradiction
      · exact Nat.not_lt.mpr beyond made
    · rcases Outlets.places_of_deliver delivered with same | ⟨stored, held, rfl, set⟩
      · rw [Outlets.place, same]
        exact unfilled.places place beyond
      · have other : stored ≠ place := fun same => Nat.not_lt.mpr beyond (same ▸ made)
        rw [Outlets.place, set, List.getElem?_set_ne other]
        exact unfilled.places place beyond
  reported := by
    intro outlets fault unfilled
    refine ⟨fun channel beyond => ?_, fun place beyond => ?_⟩
    · rw [Outlets.queue_of_channels (outlets.channels_report fault)]
      exact unfilled.queues channel beyond
    · rw [Outlets.place, outlets.places_report fault]
      exact unfilled.places place beyond

theorem Outlets.inbox_of_closed {outlets : Outlets} {isOpen : ChannelId → Bool}
    {channel : ChannelId} (closed : isOpen channel = false) :
    outlets.inbox isOpen channel = ⟨outlets.queue channel, false⟩ := by
  rw [queue, inbox, inbox]
  cases outlets.channels[channel]? with
  | none => rfl
  | some queue => exact congrArg (Inbox.mk _) closed

/-- A poller all whose queues are empty, with nobody left to fill them, is closed. -/
theorem OutputPoller.poll_of_closed {poller : OutputPoller} {isOpen : ChannelId → Bool}
    {outlets : Outlets} (closed : ∀ source ∈ (Ticket.outputs poller).pollers,
      outlets.inbox isOpen source.channel = ⟨[], false⟩) :
    (poller.poll isOpen outlets).1 = .ok .closed := by
  match poller with
  | ⟨task, .plain source⟩ =>
      have nothing := closed source List.mem_cons_self
      simp only [OutputPoller.poll, OutputPoller.pollSource, Poller.poll, nothing]
      rfl
  | ⟨task, .gated source⟩ =>
      have unpaid := closed source.payload List.mem_cons_self
      have unsignalled := closed source.presence (List.mem_cons_of_mem _ List.mem_cons_self)
      simp only [OutputPoller.poll, OutputPoller.pollSource, GatedPoller.poll, GatedPoller.gate,
        unpaid, unsignalled, Gate.poll_eq]
      cases source.pending <;> rfl

/-- A stream that can be observed: an output of the graph, or its preview. -/
def Graph.HasOutput (graph : Graph) (stream : String) : Prop :=
  (∃ kind, graph.outputStreams.find? stream = some kind) ∨ graph.previewStream = some stream

theorem Graph.isObservable_iff {graph : Graph} {stream : String} :
    graph.isObservable stream = true ↔ graph.HasOutput stream := by
  rw [isObservable, Bool.or_eq_true, StreamMap.contains, Option.isSome_iff_exists, beq_iff_eq,
    HasOutput]

namespace Session

variable {session next base : Session SessionEngine} {graph : Graph} {action : Action}
  {answer : Answer}

section Since

def configures : Action × Answer → Bool
  | (.configure _, .done) => true
  | _ => false

/-- What was asked and answered since a graph was configured last. -/
def sinceConfigured (history : List (Action × Answer)) : List (Action × Answer) :=
  (history.reverse.takeWhile (!configures ·)).reverse

/-- A session as it was when a graph was configured last. -/
def whenConfigured (session : Session SessionEngine) (actions : List Action) :
    Session SessionEngine :=
  session.after
    (actions.take (actions.length - (sinceConfigured (session.history actions)).length))

theorem exists_of_configures {exchange : Action × Answer}
    (configured : configures exchange = true) :
    ∃ source, exchange = (.configure source, .done) := by
  unfold configures at configured
  split at configured
  · exact ⟨_, rfl⟩
  · contradiction

theorem sinceConfigured_append {before since : List (Action × Answer)}
    {exchange : Action × Answer} (configured : configures exchange = true)
    (quiet : ∀ other ∈ since, configures other = false) :
    sinceConfigured (before ++ exchange :: since) = since := by
  have others : ∀ other ∈ since.reverse, (!configures other) = true := fun other member => by
    rw [quiet other (List.mem_reverse.mp member)]
    rfl
  rw [sinceConfigured, List.reverse_append, List.reverse_cons, List.append_assoc,
    List.takeWhile_append_of_pos others, List.singleton_append, List.takeWhile_cons,
    configured]
  simp

/-- A session that is configured was so before, or was just configured. -/
theorem Step.of_configured (step : session.Step action answer next)
    (configured : next.state = .configured) (other : configures (action, answer) = false) :
    session.state = .configured ∧ (action, answer) ≠ (.start, .done) := by
  have unstarted (silent : ∀ stamps, stampsAfter stamps (action, answer) = stamps) :
      (action, answer) ≠ (.start, .done) := by
    intro starts
    have forgotten := silent [.clamp 0]
    rw [starts] at forgotten
    contradiction
  cases step with
  | rejected error rejected => exact ⟨configured, nofun⟩
  | tended extended granted silent => exact ⟨configured, unstarted silent⟩
  | misconfigured state read loaded => exact ⟨configured, nofun⟩
  | configured state read loaded found => contradiction
  | bound before capacity extended granted silent => exact ⟨before, unstarted silent⟩
  | launched before begun => contradiction
  | aborted before begun => contradiction
  | withheld checked given => exact ⟨configured, nofun⟩
  | fed checked given granted records =>
      have running := state_of_checkStamp checked
      have same : session.state = .configured := configured
      rw [running] at same
      contradiction
  | drained running ended => contradiction
  | dropped before => contradiction
  | polled polled granted silent =>
      rw [Session.state, polled.lifecycle] at configured
      exact ⟨configured, unstarted silent⟩

theorem exists_of_configured {actions : List Action}
    (configured : (session.after actions).state = .configured) :
    (session.state = .configured ∧ (.start, .done) ∉ session.history actions ∧
        ∀ exchange ∈ session.history actions, configures exchange = false) ∨
      ∃ before source since, actions = before ++ .configure source :: since ∧
        let made := (session.after before).perform (.configure source)
        made.1 = .done ∧ made.2.state = .configured ∧ (.start, .done) ∉ made.2.history since ∧
          ∀ exchange ∈ made.2.history since, configures exchange = false := by
  induction actions generalizing session with
  | nil =>
      exact .inl ⟨configured, List.not_mem_nil, fun _ member => absurd member List.not_mem_nil⟩
  | cons action rest ih =>
      -- The last configuration is among the rest, or it is this action, or there is none.
      rcases ih configured with ⟨next, unstarted, quiet⟩ | ⟨before, source, since, rfl, made⟩
      · cases asked : configures (action, (session.perform action).1) with
        | true =>
            obtain ⟨source, same⟩ := exists_of_configures asked
            obtain ⟨rfl, done⟩ := Prod.mk.inj same
            exact .inr ⟨[], source, rest, rfl, done, next, unstarted, quiet⟩
        | false =>
            obtain ⟨before, first⟩ := (session.perform_step action).of_configured next asked
            refine .inl ⟨before, ?_, ?_⟩
            · rw [history, List.mem_cons, not_or]
              exact ⟨Ne.symm first, unstarted⟩
            · exact List.forall_mem_cons.mpr ⟨asked, quiet⟩
      · exact .inr ⟨action :: before, source, since, rfl, made⟩

/-- Since a graph was configured last, no run was begun. -/
theorem exists_since {actions : List Action} (first : session.state ≠ .configured)
    (configured : (session.after actions).state = .configured) :
    let base := session.whenConfigured actions
    ∃ since, session.after actions = base.after since ∧
      sinceConfigured (session.history actions) = base.history since ∧
      base.state = .configured ∧ (.start, .done) ∉ base.history since := by
  rcases exists_of_configured configured with
    ⟨already, _⟩ | ⟨before, source, since, rfl, done, state, unstarted, quiet⟩
  · exact absurd already first
  let made := ((session.after before).perform (.configure source)).2
  have told : session.history (before ++ .configure source :: since) =
      session.history before ++ (.configure source, .done) :: made.history since := by
    rw [history_append, ← done]
    rfl
  have found : sinceConfigured (session.history (before ++ .configure source :: since)) =
      made.history since := by
    rw [told, sinceConfigured_append rfl quiet]
  have taken : (before ++ .configure source :: since).take
      ((before ++ .configure source :: since).length - since.length) =
        before ++ [.configure source] := by
    rw [List.append_cons]
    refine List.take_left' ?_
    simp only [List.length_append, List.length_cons, List.length_nil]
    omega
  have same : session.whenConfigured (before ++ .configure source :: since) = made := by
    rw [whenConfigured, found, length_history, taken, after_append]
    rfl
  rw [same, found, after_append]
  exact ⟨since, rfl, rfl, state, unstarted⟩

end Since

section Starting

variable {missing : String} {binding : Binding}

/-- The first stream that the graph lacks is refused; the ones before it have their
observers by then. -/
theorem install_of_missing {engine : SessionEngine} (rests : engine.run = none)
    (loaded : engine.graph = some graph) {entries : List (String × Binding)}
    (first : entries.find? (fun entry => !graph.isObservable entry.1) = some (missing, binding)) :
    ∃ observers, install entries engine =
      (.error (EngineRefusal.unknownOutput missing).status, { engine with observers }) := by
  induction entries generalizing engine with
  | nil => contradiction
  | cons entry rest ih =>
      obtain ⟨stream, bound⟩ := entry
      have asked : GraphEngine.observe stream bound engine =
          SessionEngine.answer engine (engine.observe stream bound) := rfl
      cases observable : graph.isObservable stream with
      | true =>
          let next : SessionEngine :=
            { engine with observers := engine.observers.insert stream bound }
          have observed : engine.observe stream bound = .ok next :=
            ScriptedEngine.observe_eq_ok_iff.mpr ⟨rests, graph, loaded, observable, rfl⟩
          rw [List.find?_cons_of_neg (by simp [observable])] at first
          obtain ⟨observers, installed⟩ := @ih next rests loaded first
          refine ⟨observers, ?_⟩
          simp only [install, asked, observed, SessionEngine.answer, installed]
          rfl
      | false =>
          have refused : engine.observe stream bound = .error (.unknownOutput stream) := by
            simp [ScriptedEngine.observe, ScriptedEngine.isRunning, rests, loaded, observable]
          rw [List.find?_cons_of_pos (by simp [observable]), Option.some.injEq] at first
          cases first
          refine ⟨engine.observers, ?_⟩
          simp only [install, asked, refused, SessionEngine.answer]

/-- What a start that is refused leaves: the engine as it was, with a place to report faults
to, and a session that is stopped and has no bindings. -/
def abandoned (session : Session SessionEngine) : Session SessionEngine :=
  { session with
    bindings := session.bindings.clear
    engine := { session.engine with sink := some () }
    lifecycle := session.lifecycle.stopped }

/-- The engine after a start tried to put the bindings into effect. -/
def launchedEngine (session : Session SessionEngine) : SessionEngine :=
  (launch session.bindings (GraphEngine.connectFaults session.engine)).2

theorem start_of_missing (coupled : session.Coupled) (configured : session.state = .configured)
    {text : String} (remembered : session.graph = some text)
    (parsed : Graph.parse text = .ok graph) (loaded : session.engine.graph = some graph)
    (first : session.bindings.bindings.entries.find? (fun entry => !graph.isObservable entry.1) =
      some (missing, binding)) :
    session.start =
        (.error (.start (EngineRefusal.unknownOutput missing).status), session.abandoned) ∧
      GraphEngine.load text session.launchedEngine = (.ok (), session.abandoned.engine) := by
  have allowed : session.lifecycle.require .start = .ok () :=
    allows_of_configured configured (by decide)
  let connected : SessionEngine := GraphEngine.connectFaults session.engine
  have rests : connected.run = none := coupled.agrees.resting (by simp [configured])
  obtain ⟨observers, installed⟩ := install_of_missing rests loaded first
  have launches : launch session.bindings (GraphEngine.connectFaults session.engine) =
      (.error (EngineRefusal.unknownOutput missing).status, { connected with observers }) := by
    simp only [launch]
    rw [show install session.bindings.bindings.entries
      (GraphEngine.connectFaults session.engine) = _ from installed]
  -- The text that the session remembers is the one that the engine has loaded.
  have unobserved : session.engine.observers = .empty := coupled.agrees.observers
  have reloads : ScriptedEngine.load text { connected with observers } =
      .ok session.abandoned.engine := by
    refine ScriptedEngine.load_eq_ok_iff.mpr ⟨rests, graph, parsed, ?_⟩
    rw [← loaded, ← unobserved]
    rfl
  have again : GraphEngine.load text ({ connected with observers } : SessionEngine) =
      (.ok (), session.abandoned.engine) :=
    congrArg (SessionEngine.answer { connected with observers }) reloads
  have reset : reload session.graph { connected with observers } = session.abandoned.engine := by
    rw [remembered]
    exact congrArg Prod.snd again
  constructor
  · simp only [start, allowed, launches, reset]
    rfl
  · rw [launchedEngine, launches]
    exact again

end Starting

section Forgetting

variable {since later : List Action} {exchange : Action × Answer} {channel : ChannelId}
  {place : PlaceId} {listener : Listener} {told : List Event}

/-- As long as no run is begun, nothing gets into the queues and places that are made. -/
theorem shielded_since (coupled : base.Coupled) (founded : base.Founded)
    (unstarted : (.start, .done) ∉ base.history since) :
    (base.after since).Shielded (¬ ·.IsMade base.outlets) base.outlets.Unfilled :=
  have first : base.Shielded (¬ ·.IsMade base.outlets) base.outlets.Unfilled :=
    ⟨founded.observers, base.outlets.unfilled_self⟩
  first.through (brokenOnlyBy_unfilled _) coupled unstarted

/-- What was granted in that time was made then, and is as empty as it was. -/
theorem shielded_granted (coupled : base.Coupled) (founded : base.Founded)
    (unstarted : (.start, .done) ∉ base.history since) (known : exchange ∈ base.history since)
    {binding : Binding} (granted : binding.IsGranted base.task exchange)
    (silent : binding.listener? = none) :
    (base.after since).Shielded (· = binding) base.outlets.Unfilled ∧
      binding.IsNew base.outlets ∧ binding.IsMade (base.after since).outlets := by
  have shielded := shielded_since coupled founded unstarted
  obtain ⟨fresh, made⟩ := made_of_mem_history coupled known granted
  refine ⟨⟨fun worker found stream other observed same => ?_, shielded.held⟩, fresh, made⟩
  subst same
  exact shielded.shuns worker found stream other observed (fresh.not_isMade silent)

theorem shielded_queue (coupled : base.Coupled) (founded : base.Founded)
    (unstarted : (.start, .done) ∉ base.history since) (known : exchange ∈ base.history since)
    (granted : Binding.IsGranted base.task exchange (.poller channel)) :
    (base.after since).Shielded (· = .poller channel) fun outlets =>
      channel < outlets.channels.length ∧ outlets.queue channel = [] := by
  obtain ⟨⟨shuns, unfilled⟩, fresh, made⟩ :=
    shielded_granted coupled founded unstarted known granted rfl
  exact ⟨shuns, made, unfilled.queues channel fresh⟩

theorem shielded_place (coupled : base.Coupled) (founded : base.Founded)
    (unstarted : (.start, .done) ∉ base.history since) (known : exchange ∈ base.history since)
    (granted : Binding.IsGranted base.task exchange (.latest place)) :
    (base.after since).Shielded (· = .latest place) fun outlets =>
      place < outlets.places.length ∧ outlets.place place = {} := by
  obtain ⟨⟨shuns, unfilled⟩, fresh, made⟩ :=
    shielded_granted coupled founded unstarted known granted rfl
  exact ⟨shuns, made, unfilled.places place fresh⟩

theorem isOpen_of_shuns (coupled : session.Coupled)
    (shuns : session.engine.Shuns (· = .poller channel))
    (avoids : session.bindings.Avoids (· = .poller channel)) : session.isOpen channel = false := by
  have unbound : session.bindings.holds channel = false := by
    refine eq_false_of_ne_true fun held => ?_
    obtain ⟨stream, found⟩ := BindingTable.holds_iff.mp held
    exact avoids stream _ found rfl
  have unobserved : GraphEngine.holds channel session.engine = false := by
    have observers : session.engine.observers = .empty := coupled.agrees.observers
    change session.engine.heldObservers.any _ = false
    rw [ScriptedEngine.heldObservers, observers]
    cases found : session.engine.worker with
    | none => rfl
    | some worker =>
        refine eq_false_of_ne_true fun held => ?_
        obtain ⟨stream, observed⟩ := StreamMap.any_channel_iff.mp held
        exact shuns worker found stream _ observed rfl
  rw [isOpen, unbound, unobserved]
  rfl

/-- A queue that nothing is bound to any more stays empty and closed. -/
theorem inbox_after (coupled : session.Coupled) (unbound : session.bindings.bindings = .empty)
    (shielded : session.Shielded (· = .poller channel) fun outlets =>
      channel < outlets.channels.length ∧ outlets.queue channel = []) (later : List Action) :
    let left := session.after later
    left.outlets.inbox left.isOpen channel = ⟨[], false⟩ := by
  intro left
  obtain ⟨still, avoids⟩ := Shielded.after shielded (brokenOnlyBy_queue channel) coupled
    (BindingTable.avoids_of_empty unbound) (not_granted_of_made coupled shielded.held.1 rfl)
  have closed := isOpen_of_shuns (coupled.after later) still.shuns avoids
  rw [Outlets.inbox_of_closed closed, still.held.2]

/-- A place that nothing is bound to any more stays empty. -/
theorem place_after (coupled : session.Coupled) (unbound : session.bindings.bindings = .empty)
    (shielded : session.Shielded (· = .latest place) fun outlets =>
      place < outlets.places.length ∧ outlets.place place = {}) (later : List Action) :
    (session.after later).outlets.place place = {} :=
  (Shielded.after shielded (brokenOnlyBy_place place) coupled
    (BindingTable.avoids_of_empty unbound)
    (not_granted_of_made coupled shielded.held.1 rfl)).1.held.2

/-- A listener whom nothing is bound to is told of nothing until something is. -/
theorem heardBy_after (coupled : session.Coupled) (unbound : session.bindings.bindings = .empty)
    (shielded : session.Shielded (·.listener? = some listener) (·.heardBy listener = told))
    (later : List Action)
    (unasked : ∀ exchange ∈ session.history later, ∀ binding : Binding,
      binding.IsGranted session.task exchange → binding.listener? ≠ some listener) :
    (session.after later).outlets.heardBy listener = told :=
  (shielded.after (brokenOnlyBy_heardBy listener told) coupled
    (BindingTable.avoids_of_empty unbound) unasked).1.held

/-- The queues of a handle on outputs were granted when it was handed out first. -/
theorem exists_granted {task : Task} {poller : OutputPoller}
    (handed : HandedOut (base.history since) poller) :
    ∀ source ∈ (Ticket.outputs poller).pollers, ∃ exchange ∈ base.history since,
      Binding.IsGranted task exchange (.poller source.channel) := by
  have kept (session : Session SessionEngine) (before : OutputPoller) :
      (Ticket.outputs (session.poll before).2.1).pollers = (Ticket.outputs before).pollers := by
    obtain ⟨task, source⟩ := before
    cases source <;> rfl
  induction handed with
  | bound known => exact fun source member => ⟨_, known, .outputs member⟩
  | polled before known ih =>
      obtain ⟨asked, answer⟩ := exists_of_mem_history known
      simp only [perform, Answer.polled.injEq] at answer
      rw [← answer.2, kept]
      exact ih
  | @filled poller buffer copied filled last before known ih =>
      obtain ⟨asked, answer⟩ := exists_of_mem_history known
      simp only [perform, getOutput, Answer.filled.injEq] at answer
      have first := kept asked poller
      rw [← answer.2.2, awaitOutput]
      split
      · rename_i polled
        rw [polled] at first
        rw [kept, first]
        exact ih
      · rw [first]
        exact ih

end Forgetting

/-- A session that no caller can tell from a new one, once it has taken a graph. -/
structure IsRenewed (session : Session SessionEngine) : Prop where
  answers : ∀ source, (session.configure source).1 = (session.renewed.configure source).1
  goesOn : ∀ source, (session.configure source).1 = .ok () → ∀ rest,
    let actions := .configure source :: rest
    session.history actions = session.renewed.history actions ∧
      (session.after actions).lifecycle = (session.renewed.after actions).lifecycle ∧
      (session.after actions).outlets = (session.renewed.after actions).outlets

theorem Coupled.isRenewed (coupled : session.Coupled) (settled : session.Settled)
    (resting : session.state ∈ Operation.configure.states)
    (idle : session.engine.worker = none) : session.IsRenewed := by
  have like := configure_renewed coupled settled.capacity resting idle
  refine ⟨fun source => (like source).1, fun source done rest => ?_⟩
  have new : session.renewed.Coupled :=
    (coupled_fresh trivial rfl rfl session.task session.layout session.config).withOutlets _
  have next (other : Session SessionEngine) :
      (other.perform (.configure source)).2 = (other.configure source).2 := answered_snd ..
  have answer : (session.perform (.configure source)).1 =
      (session.renewed.perform (.configure source)).1 := by
    have answers := (like source).1
    simp only [perform]
    rcases asked : session.configure source with ⟨result, _⟩
    rcases newAsked : session.renewed.configure source with ⟨newResult, _⟩
    rw [asked, newAsked] at answers
    obtain rfl : result = newResult := answers
    cases result <;> rfl
  have resembles := (like source).2 done
  rw [← next, ← next] at resembles
  obtain ⟨history, same⟩ :=
    resembles.after (new.step (session.renewed.perform_step (.configure source))) rest
  refine ⟨?_, same⟩
  rw [Session.history, Session.history]
  dsimp only
  rw [answer, history]

/-- What becomes of a session whose start names a stream that its graph lacks. `base` is the
session as it was when the graph was configured. A worker that it still has is one that the
stop of an earlier run is waiting for, with the observers of that run. -/
structure Aborted (session base : Session SessionEngine) (since : List (Action × Answer))
    (text : String) (graph : Graph) : Prop where
  missing : ∃ missing binding,
    session.bindings.bindings.IsLeast (fun stream _ => ¬ graph.HasOutput stream) missing binding ∧
      session.start.1 = .error (.start (EngineRefusal.unknownOutput missing).status) ∧
      (EngineRefusal.unknownOutput missing).status.code = .notFound
  stopped : session.start.2.state = .stopped
  bindings : session.start.2.bindings.bindings = .empty
  graph : session.start.2.engine.graph = some graph
  observers : session.start.2.engine.observers = .empty
  run : session.start.2.engine.run = none
  reloads : (GraphEngine.load text session.launchedEngine).1 = .ok ()
  packets : ∀ stream poller, (.pollStream stream, .packets poller) ∈ since →
    ∀ later, ((session.start.2.after later).pollPackets poller).1 = .closed
  outputs : ∀ poller, HandedOut since poller →
    ∀ later, ((session.start.2.after later).poll poller).1 = .ok .closed
  places : ∀ place, (.previewLatest, .placed place) ∈ since →
    ∀ later, (session.start.2.after later).outlets.place place = {}
  callbacks : ∀ listener, base.engine.Shuns (·.listener? = some listener) →
    ∀ later, (∀ exchange ∈ session.start.2.history later, ∀ binding : Binding,
      binding.IsGranted session.task exchange → binding.listener? ≠ some listener) →
        (session.start.2.after later).outlets.heardBy listener = base.outlets.heardBy listener
  renewed : base.engine.worker = none →
    ∀ later, (.start, .done) ∉ session.start.2.history later →
      (session.start.2.after later).state ∈ Operation.configure.states →
        (session.start.2.after later).IsRenewed

theorem isLeast_of_first {missing : String} {binding : Binding}
    (first : session.bindings.bindings.entries.find? (fun entry => !graph.isObservable entry.1) =
      some (missing, binding)) :
    session.bindings.bindings.IsLeast (fun stream _ => ¬ graph.HasOutput stream)
      missing binding := by
  have lacks (stream : String) :
      (!graph.isObservable stream) = true ↔ ¬ graph.HasOutput stream := by
    rw [← Graph.isObservable_iff, Bool.not_eq_true', Bool.not_eq_true]
  obtain ⟨found, holds, least⟩ := StreamMap.isLeast_of_find?_entries first
  exact ⟨found, (lacks missing).mp holds,
    fun other content known absent => least other content known ((lacks other).mpr absent)⟩

theorem aborted_of_missing {text missing : String} {binding : Binding} {since : List Action}
    (coupled : base.Coupled) (founded : base.Founded) (settled : base.Settled)
    (unstarted : (.start, .done) ∉ base.history since) (resting : base.state ≠ .running)
    (stood : base.after since = session) (configured : session.state = .configured)
    (remembered : session.graph = some text) (parsed : Graph.parse text = .ok graph)
    (loaded : session.engine.graph = some graph)
    (first : session.bindings.bindings.entries.find? (fun entry => !graph.isObservable entry.1) =
      some (missing, binding)) :
    session.Aborted base (base.history since) text graph := by
  have bound : session.Coupled := stood ▸ coupled.after since
  have task : session.task = base.task := stood ▸ task_after base since
  obtain ⟨starts, reloads⟩ := start_of_missing bound configured remembered parsed loaded first
  have step : session.Step .start
      (.refused (.start (EngineRefusal.unknownOutput missing).status)) session.abandoned := by
    have step := session.perform_step .start
    rw [perform, starts] at step
    exact step
  have abandoned := bound.step step
  have steady := (stood ▸ Settled.through coupled settled since : session.Settled).step bound step
  have unbound : session.abandoned.bindings.bindings = .empty := rfl
  have kept {touches : Binding → Prop} {holds : Outlets → Prop}
      (only : BrokenOnlyBy touches holds) (shielded : (base.after since).Shielded touches holds) :
      session.abandoned.Shielded touches holds :=
    (show session.Shielded touches holds from stood ▸ shielded).tend only rfl (.refl _)
  have closed {exchange : Action × Answer} {channel : ChannelId}
      (known : exchange ∈ base.history since)
      (granted : Binding.IsGranted base.task exchange (.poller channel)) (later : List Action) :=
    inbox_after abandoned unbound
      (kept (brokenOnlyBy_queue channel) (shielded_queue coupled founded unstarted known granted))
      later
  have quiet (idle : base.engine.worker = none) :
      Quiet base.outlets.events session.abandoned := by
    have before : Quiet base.outlets.events session :=
      stood ▸ Quiet.through coupled ⟨idle, resting, rfl⟩ unstarted
    exact before.step bound step (by simp)
  exact {
    missing := ⟨missing, binding, isLeast_of_first first, by rw [starts], rfl⟩
    stopped := by rw [starts]; rfl
    bindings := by rw [starts]; rfl
    graph := by rw [starts]; exact loaded
    observers := by rw [starts]; exact bound.agrees.observers
    run := by rw [starts]; exact bound.agrees.resting (by simp [configured])
    reloads := congrArg Prod.fst reloads
    packets := by
      intro stream poller known later
      have nothing := closed known .packets later
      rw [starts]
      simp only [pollPackets, Poller.poll, nothing]
      rfl
    outputs := by
      intro poller handed later
      rw [starts]
      refine OutputPoller.poll_of_closed fun source member => ?_
      obtain ⟨exchange, known, granted⟩ := exists_granted handed source member
      exact closed known granted later
    places := by
      intro place known later
      rw [starts]
      exact place_after abandoned unbound
        (kept (brokenOnlyBy_place place) (shielded_place coupled founded unstarted known .latest))
        later
    callbacks := by
      intro listener shuns later unasked
      rw [starts] at unasked ⊢
      have only := brokenOnlyBy_heardBy listener (base.outlets.heardBy listener)
      have first : base.Shielded (·.listener? = some listener)
          (·.heardBy listener = base.outlets.heardBy listener) := ⟨shuns, rfl⟩
      exact heardBy_after abandoned unbound (kept only (first.through only coupled unstarted))
        later unasked
    renewed := by
      intro idle later unstarted resting
      rw [starts] at unstarted resting ⊢
      exact (abandoned.after later).isRenewed (steady.through abandoned later) resting
        ((quiet idle).through abandoned unstarted).worker }

/-- A start puts every binding into effect, each on its own stream, if the graph has all of
their streams. Otherwise it names the first one that the graph lacks and forgets them all:
their pollers are closed, nobody is told anything for them, and the session goes on like a new
one with the next graph. -/
theorem start_all_or_nothing (task : Task) (layout : Layout) (config : SessionConfig)
    (actions : List Action)
    (configured : ((opened task layout config).after actions).state = .configured) :
    let session := (opened task layout config).after actions
    let base := (opened task layout config).whenConfigured actions
    let since := sinceConfigured ((opened task layout config).history actions)
    (config.pollerCapacity = none → base.engine.worker = none) ∧
      ∃ text graph, session.graph = some text ∧ Graph.parse text = .ok graph ∧
        session.engine.graph = some graph ∧
        (session.start.1 = .ok () ∧ session.start.2.state = .running ↔
          ∀ stream ∈ session.bindings.streams, graph.HasOutput stream) ∧
        (session.start.1 = .ok () → Launched graph session session.start.2) ∧
        (session.start.1 ≠ .ok () → session.Aborted base since text graph) := by
  intro session base since
  have coupled : session.Coupled := coupled_opened
  obtain ⟨_, text, graph, remembered, parsed, loaded, _⟩ := coupled.agrees.configured configured
  obtain ⟨recent, stood, told, made, unstarted⟩ :=
    @exists_since (opened task layout config) actions nofun configured
  have founded : base.Founded := founded_opened
  have settled : base.Settled := settled_opened
  have based : base.Coupled := coupled_opened
  have resting : base.state ≠ .running := by
    rw [made]
    nofun
  refine ⟨fun unbounded => ?_, text, graph, remembered, parsed, loaded, ?_⟩
  · refine settled.idle based resting ?_
    rw [show base.config = config from config_after ..]
    exact unbounded
  cases first : session.bindings.bindings.entries.find?
      (fun entry => !graph.isObservable entry.1) with
  | none =>
      have observable (stream : String) (binding : Binding)
          (found : session.bindings.bindings.find? stream = some binding) :
          graph.isObservable stream = true := by
        simpa using List.find?_eq_none.mp first _ (StreamMap.mem_entries_iff.mpr found)
      obtain ⟨begun, starts⟩ := exists_start coupled configured loaded observable
      have launched := launched_of_start coupled starts loaded
      rw [starts]
      refine ⟨⟨fun _ stream bound => ?_, fun _ => ⟨rfl, launched.running⟩⟩, fun _ => launched,
        fun failed => absurd rfl failed⟩
      obtain ⟨binding, found⟩ := Option.isSome_iff_exists.mp (StreamMap.mem_names_iff.mp bound)
      exact Graph.isObservable_iff.mp (observable stream binding found)
  | some entry =>
      obtain ⟨missing, binding⟩ := entry
      have least := isLeast_of_first first
      have aborted : session.Aborted base since text graph := by
        rw [show since = base.history recent from told]
        exact aborted_of_missing based founded settled unstarted resting stood.symm configured
          remembered parsed loaded first
      obtain ⟨_, _, _, refused, _⟩ := aborted.missing
      have failed : session.start.1 ≠ .ok () := by
        rw [refused]
        nofun
      refine ⟨⟨fun begun => absurd begun.1 failed, fun all => ?_⟩,
        fun begun => absurd begun failed, fun _ => aborted⟩
      refine absurd (all missing ?_) least.holds
      exact StreamMap.mem_names_iff.mpr (Option.isSome_iff_exists.mpr ⟨binding, least.found⟩)

/-- Of two streams that the graph lacks, the first one in byte order is named; the poller of a
stream that it has is closed all the same, also in the next run. -/
theorem start_without_two_outputs :
    let source : GraphSource := .text "\x7b\"output_streams\":\x7b\"seen\":\"presence\"\x7d\x7d"
    ∃ stopped, ((opened .detection [] {}).after [.configure source, .pollStream "seen",
        .observeStream "zeta" 1, .observeStream "alpha" 2]).start =
        (.error (.start ⟨.notFound, "graph has no output stream named \"alpha\""⟩), stopped) ∧
      stopped.bindings.bindings = .empty ∧
      ((stopped.after [.configure source, .pollStream "seen", .start]).pollPackets
        ⟨"seen", 0⟩).1 = .closed := by
  obtain ⟨_, text, graph, _, _, _, _, _, aborts⟩ := start_all_or_nothing .detection [] {}
    [.configure (.text "\x7b\"output_streams\":\x7b\"seen\":\"presence\"\x7d\x7d"),
      .pollStream "seen", .observeStream "zeta" 1, .observeStream "alpha" 2] (by decide +kernel)
  have aborted := aborts (by decide +kernel)
  have polled (history : List (Action × Answer)) (held : history.any (fun
      | (.pollStream stream, .packets poller) => stream == "seen" && poller == ⟨"seen", 0⟩
      | _ => false) = true) : (.pollStream "seen", .packets ⟨"seen", 0⟩) ∈ history := by
    obtain ⟨exchange, known, same⟩ := List.any_eq_true.mp held
    split at same
    · obtain ⟨rfl, rfl⟩ : _ = "seen" ∧ _ = (⟨"seen", 0⟩ : Poller) := by simpa using same
      exact known
    · exact absurd same Bool.false_ne_true
  exact ⟨_, Prod.ext (by decide +kernel) rfl, aborted.bindings,
    aborted.packets "seen" _ (polled _ (by decide +kernel)) _⟩

end Session

end FrameFlow
