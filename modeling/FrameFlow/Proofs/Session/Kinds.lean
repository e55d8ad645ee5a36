import FrameFlow.Proofs.Session.Typing

/-!
Sessions whose bindings fit their graphs. Every action leaves queues, observers and bindings
such that packets are of the kinds that are expected of them.
-/

namespace FrameFlow

namespace Session

variable {session : Session SessionEngine} {kinds fresh : QueueKinds}

def declares (session : Session SessionEngine) (stream : String) (kind : PayloadKind) : Bool :=
  session.engine.graph.all fun graph => graph.outputStreams.find? stream == some kind

/-- What an action binds, the graph declares to be of the kind that the task or the preview is
made from. -/
def suits (session : Session SessionEngine) : Action → Bool
  | .bindCallback port _ => session.declares port.output session.task.payload
  | .bindPoller port =>
      session.declares port.output session.task.payload &&
        port.presence.all (session.declares · .presence)
  | .bindPreview _ | .previewLatest =>
      session.engine.graph.all (·.previewStream == some session.config.previewStream)
  | _ => true

/-- Nothing is bound that does not suit the graph of the time. -/
def suitsAll (session : Session SessionEngine) : List Action → Bool
  | [] => true
  | action :: rest =>
      ((session.perform action).1.isRefusal || session.suits action) &&
        (session.perform action).2.suitsAll rest

/-- Engine and queues deal with packets of the kinds that are expected of them, and so would an
engine that starts with the bindings of the session. -/
structure Typed (kinds : QueueKinds) (session : Session SessionEngine) : Prop where
  engine : SessionEngine.Typed kinds session.engine session.outlets
  bindings : session.state = .configured → ∀ graph, session.engine.graph = some graph →
    ∀ stream binding, session.bindings.bindings.find? stream = some binding →
      graph.Suits kinds session.outlets.channels.length stream binding

theorem Typed.of_unbound (engine : SessionEngine.Typed kinds session.engine session.outlets)
    (unbound : session.bindings.bindings = .empty) : session.Typed kinds := by
  refine ⟨engine, fun _ graph _ stream binding bound => ?_⟩
  rw [unbound] at bound
  contradiction

theorem Typed.loses (typed : session.Typed kinds) {outlets : Outlets}
    (loses : session.outlets.Loses outlets) : Typed kinds { session with outlets } := by
  refine ⟨⟨typed.engine.queues.loses loses, ?_⟩, ?_⟩
  · rw [loses.length]
    exact typed.engine.worker
  · rw [loses.length]
    exact typed.bindings

theorem Typed.settle (typed : session.Typed kinds) : session.settle.Typed kinds := by
  refine ⟨typed.engine.advance, fun configured graph loaded stream binding bound => ?_⟩
  have same : session.settle.engine.graph = session.engine.graph := by
    rw [show session.settle.engine = _ from ScriptedEngine.advance_eq ..]
  have length : session.settle.outlets.channels.length = session.outlets.channels.length :=
    length_channels_settle session
  rw [length]
  exact typed.bindings configured graph (same.symm.trans loaded) stream binding bound

theorem Typed.configure (typed : session.Typed kinds) (source : GraphSource) :
    (session.configure source).2.Typed kinds := by
  unfold Session.configure
  cases allowed : session.lifecycle.require .configure with
  | error error => exact typed
  | ok done =>
      have resting := SessionState.ne_configured_of_mem (state_of_require allowed)
      cases read : source.load with
      | error error => exact typed
      | ok text =>
          have asked : GraphEngine.load text session.engine =
              SessionEngine.answer session.engine (session.engine.load text) := rfl
          cases loaded : session.engine.load text with
          | error refusal =>
              simp only [asked, loaded, SessionEngine.answer]
              exact typed
          | ok engine =>
              obtain ⟨_, graph, _, rfl⟩ := ScriptedEngine.load_eq_ok_iff.mp loaded
              simp only [asked, loaded, SessionEngine.answer]
              split
              · exact .of_unbound ⟨typed.engine.queues, typed.engine.worker⟩ rfl
              · exact ⟨⟨typed.engine.queues, typed.engine.worker⟩,
                  fun configured => absurd configured resting⟩

theorem Typed.bindStream (typed : session.Typed kinds) {operation : Operation} {stream : String}
    {binding : Binding}
    (suits : (session.bindStream operation stream binding).1 = .ok () →
      ∀ graph, session.engine.graph = some graph →
        graph.Suits kinds session.outlets.channels.length stream binding) :
    (session.bindStream operation stream binding).2.Typed kinds := by
  unfold Session.bindStream at suits ⊢
  cases allowed : session.lifecycle.require operation with
  | error error => exact typed
  | ok done =>
      simp only [allowed] at suits
      cases bound : session.bindings.bindCallback stream binding with
      | error error => exact typed
      | ok bindings =>
          simp only [bound] at suits
          refine ⟨typed.engine, fun configured graph loaded other held found => ?_⟩
          unfold BindingTable.bindCallback at bound
          split at bound
          · contradiction
          · cases bound
            rw [StreamMap.find?_insert] at found
            split at found
            · cases found
              subst other
              exact suits trivial graph loaded
            · exact typed.bindings configured graph loaded other held found

/-- A new queue goes to a stream that carries what is expected of the queue, if anything is. -/
theorem Typed.insertPoller (typed : session.Typed kinds) (stream : String)
    (new : ∀ channel kind, (channel, kind) ∈ fresh → channel = session.outlets.channels.length ∧
      ∀ graph, session.engine.graph = some graph →
        graph.outputStreams.find? stream = some kind) :
    let bound := session.bindings.insertPoller stream session.outlets
    Typed (kinds ++ fresh) { session with bindings := bound.2.1, outlets := bound.2.2 } := by
  have longer : (session.outlets.addChannel session.bindings.capacity).2.channels.length =
      session.outlets.channels.length + 1 := by
    simp [Outlets.addChannel]
  have apart : ∀ channel kind, (channel, kind) ∈ fresh →
      session.outlets.channels.length ≤ channel :=
    fun channel kind member => Nat.le_of_eq (new channel kind member).1.symm
  have added := typed.engine.queues.addChannel session.bindings.capacity
    fun channel kind member => (new channel kind member).1
  refine ⟨typed.engine.withOutlets added apart (longer ▸ Nat.le_succ _),
    fun configured graph loaded other binding found => ?_⟩
  simp only [BindingTable.insertPoller, Outlets.addChannel, StreamMap.find?_insert] at found
  split at found
  · cases found
    subst other
    refine ⟨longer ▸ Nat.lt_succ_self _, fun kind known => ?_⟩
    rcases List.mem_append.mp known with old | made
    · exact absurd (typed.engine.queues.known _ kind old) (Nat.lt_irrefl _)
    · exact (new _ kind made).2 graph loaded
  · exact (typed.bindings configured graph loaded other binding found).grow apart
      (longer ▸ Nat.le_succ _)

theorem Typed.previewLatest (typed : session.Typed kinds)
    (suits : (∃ place, session.previewLatest.1 = .ok place) →
      ∀ graph, session.engine.graph = some graph →
        graph.previewStream = some session.config.previewStream) :
    session.previewLatest.2.Typed kinds := by
  have bound := @Typed.bindStream _ _ typed .bindPreview session.config.previewStream
    (.latest session.outlets.addPlace.1)
  have kept : (session.bindStream .bindPreview session.config.previewStream
      (.latest session.outlets.addPlace.1)).2.outlets = session.outlets := by
    unfold Session.bindStream
    repeat' split
    all_goals rfl
  unfold Session.previewLatest at suits ⊢
  simp only at suits ⊢
  cases binds : session.bindStream .bindPreview session.config.previewStream
      (.latest session.outlets.addPlace.1) with
  | mk result next =>
      rw [binds] at bound kept suits
      cases result with
      | error error => exact typed
      | ok done =>
          have next_typed := bound fun _ => suits ⟨_, rfl⟩
          exact next_typed.loses (.of_channels (kept ▸ rfl) (kept ▸ rfl))

theorem Typed.pollStream (typed : session.Typed kinds) (stream : String) :
    (session.pollStream stream).2.Typed kinds := by
  have bound := @Typed.insertPoller session kinds [] typed stream
    fun _ _ member => absurd member List.not_mem_nil
  rw [List.append_nil] at bound
  unfold Session.pollStream BindingTable.bindPoller
  cases session.lifecycle.require .pollStream with
  | error error => exact typed
  | ok done =>
      cases session.bindings.check stream .poller with
      | error error => exact typed
      | ok done => exact bound

/-- The queues of a poller are expected to hold payloads of the task, and presences. -/
theorem Typed.bindPoller (typed : session.Typed kinds) (port : Port)
    (suits : (∃ poller, (session.bindPoller port).1 = .ok poller) →
      session.suits (.bindPoller port) = true) :
    match session.bindPoller port with
    | (.ok poller, bound) => bound.Typed (kinds ++ poller.expects)
    | (.error _, bound) => bound.Typed kinds := by
  have declares {stream : String} {kind : PayloadKind} (told : session.declares stream kind = true)
      (graph : Graph) (loaded : session.engine.graph = some graph) :
      graph.outputStreams.find? stream = some kind := by
    simpa [Session.declares, loaded] using told
  unfold Session.bindPoller BindingTable.bindPoller BindingTable.bindGated at suits ⊢
  cases allowed : session.lifecycle.require .bindPoller with
  | error error => exact typed
  | ok done =>
      simp only [allowed] at suits
      cases gates : port.presence with
      | none =>
          simp only [gates] at suits
          cases checked : session.bindings.check port.output .poller with
          | error error => exact typed
          | ok done =>
              simp only [checked] at suits
              have suits := suits ⟨_, rfl⟩
              simp only [Session.suits, gates, Option.all_none, Bool.and_true] at suits
              refine typed.insertPoller port.output fun channel kind member => ?_
              cases List.mem_singleton.mp member
              exact ⟨rfl, declares suits⟩
      | some presence =>
          simp only [gates] at suits
          cases checked : session.bindings.check port.output .poller with
          | error error => exact typed
          | ok done =>
              simp only [checked] at suits ⊢
              cases signals : session.bindings.check presence .poller with
              | error error => exact typed
              | ok done =>
                  simp only [signals] at suits
                  have suits := suits ⟨_, rfl⟩
                  simp only [Session.suits, gates, Option.all_some, Bool.and_eq_true] at suits
                  have pays := @Typed.insertPoller session kinds
                    [(session.outlets.channels.length, session.task.payload)] typed port.output
                    fun channel kind member => by
                      cases List.mem_singleton.mp member
                      exact ⟨rfl, declares suits.1⟩
                  have both := @Typed.insertPoller _ _
                    [(session.outlets.channels.length + 1, .presence)] pays presence
                    fun channel kind member => by
                      cases List.mem_singleton.mp member
                      exact ⟨by simp [BindingTable.insertPoller, Outlets.addChannel],
                        declares suits.2⟩
                  simpa [OutputPoller.expects, BindingTable.insertPoller, Outlets.addChannel]
                    using both

theorem Typed.start (typed : session.Typed kinds) (coupled : session.Coupled) :
    session.start.2.Typed kinds := by
  unfold Session.start
  cases allowed : session.lifecycle.require .start with
  | error error => exact typed
  | ok done =>
      have configured : session.state = .configured := by
        simpa [Operation.states] using state_of_require allowed
      cases launched : Session.launch session.bindings
          (GraphEngine.connectFaults session.engine) with
      | mk result engine =>
          cases result with
          | error status =>
              obtain ⟨_, graph, sink, same⟩ := coupled.abort_spec configured launched
              have worker : (reload session.graph engine).worker = session.engine.worker :=
                congrArg (·.worker) same
              refine .of_unbound ⟨typed.engine.queues, ?_⟩ rfl
              rw [worker]
              exact typed.engine.worker
          | ok done =>
              obtain ⟨_, _, graph, _, parsed, loaded, _⟩ := coupled.agrees.configured configured
              have unobserved : (GraphEngine.connectFaults session.engine).observers = .empty :=
                coupled.agrees.observers
              obtain ⟨played, observers, same, alike, begins⟩ :=
                SessionEngine.worker_of_launch unobserved launched
              obtain rfl : graph = played := Option.some.inj (loaded.symm.trans same)
              refine Typed.settle (.of_unbound ⟨typed.engine.queues, fun worker found => ?_⟩ rfl)
              cases begins.symm.trans found
              refine ⟨Graph.wellFormed_of_parse parsed, fun stream binding bound => ?_,
                fun _ member => absurd member List.not_mem_nil⟩
              rw [alike] at bound
              exact typed.bindings configured graph loaded stream binding bound

theorem Typed.feedAt (typed : session.Typed kinds) (coupled : session.Coupled)
    (input : StampedFrame) : (session.feedAt input).2.Typed kinds := by
  cases checked : session.lifecycle.checkStamp input.timestamp with
  | error error =>
      simp only [Session.feedAt, checked, Session.reject]
      exact typed.loses (.of_channels rfl rfl)
  | ok done =>
      have running := state_of_checkStamp checked
      obtain ⟨run, fed⟩ := coupled.agrees.feedAt_of_checked running checked
      rw [fed]
      have cleared := coupled.agrees.cleared (by rw [running]; decide)
      refine Typed.settle (.of_unbound ⟨typed.engine.queues.loses (.of_channels rfl rfl),
        fun worker found => ?_⟩ cleared)
      obtain ⟨before, begun, rfl⟩ := Option.map_eq_some_iff.mp found
      have works := typed.engine.worker before begun
      exact ⟨works.wellFormed, works.suits, works.current⟩

theorem Typed.feed (typed : session.Typed kinds) (coupled : session.Coupled) (frame : Frame)
    (now : Timestamp) : (session.feed frame now).2.Typed kinds := by
  have fed := typed.feedAt coupled ⟨session.lifecycle.stamp now, frame⟩
  unfold Session.feed
  simp only
  split <;> (rename_i given; rw [given] at fed; exact fed)

theorem Typed.stop (typed : session.Typed kinds) (coupled : session.Coupled) :
    session.stop.Typed kinds := by
  cases state : session.state with
  | running =>
      obtain ⟨run, ended⟩ := coupled.agrees.endRun_eq state
      have cleared := coupled.agrees.cleared (by rw [state]; decide)
      simp only [Session.stop, state, ended]
      have closed : SessionEngine.Typed kinds { session.engine with run := some run }
          session.outlets := ⟨typed.engine.queues, typed.engine.worker⟩
      have waited := closed.advance
      refine .of_unbound (SessionEngine.Typed.advance ⟨waited.queues, waited.worker⟩) cleared
  | configured =>
      simp only [Session.stop, state]
      exact .of_unbound typed.engine rfl
  | _ => simpa only [Session.stop, state] using typed

theorem Typed.poll (typed : session.Typed kinds) (poller : OutputPoller) :
    (session.poll poller).2.2.Typed kinds :=
  (typed.loses poller.loses_poll).settle

theorem Typed.awaitOutput (typed : session.Typed kinds) (poller : OutputPoller) :
    (session.awaitOutput poller).2.2.Typed kinds := by
  have first := typed.poll poller
  unfold Session.awaitOutput
  split
  · rename_i polled
    rw [polled] at first
    exact first.poll _
  · exact first

theorem expects_answered {α : Type} {granted : α → Answer}
    (silent : ∀ value, (granted value).expects = [])
    (outcome : Except SessionError α × Session SessionEngine) :
    (answered granted outcome).1.expects = [] := by
  obtain ⟨result, after⟩ := outcome
  cases result with
  | error error => rfl
  | ok value => exact silent value

theorem of_granted {α : Type} {granted : α → Answer} {holds : Prop}
    {outcome : Except SessionError α × Session SessionEngine} {value : α}
    (suits : (answered granted outcome).1.isRefusal = true ∨ holds)
    (grants : ∀ value, (granted value).isRefusal = false) (ok : outcome.1 = .ok value) : holds := by
  obtain ⟨result, after⟩ := outcome
  cases ok
  exact suits.resolve_left fun refused => absurd ((grants value).symm.trans refused) (by decide)

/-- Whatever is done to a session, packets stay of the kinds that are expected of them, and
pollers that are handed out expect what they will get. -/
theorem Typed.perform (typed : session.Typed kinds) (coupled : session.Coupled) {action : Action}
    (suits : (session.perform action).1.isRefusal = true ∨ session.suits action = true) :
    (session.perform action).2.Typed (kinds ++ (session.perform action).1.expects) := by
  have kept {next : Session SessionEngine} {answer : Answer} (typed : next.Typed kinds)
      (silent : answer.expects = []) : next.Typed (kinds ++ answer.expects) := by
    rwa [silent, List.append_nil]
  have answers {α : Type} {granted : α → Answer}
      {outcome : Except SessionError α × Session SessionEngine} (typed : outcome.2.Typed kinds)
      (silent : ∀ value, (granted value).expects = []) :
      (answered granted outcome).2.Typed (kinds ++ (answered granted outcome).1.expects) :=
    kept (by rwa [answered_snd]) (expects_answered silent outcome)
  cases action with
  | configure source => exact answers (typed.configure source) fun _ => rfl
  | bindCallback port listener =>
      refine answers (typed.bindStream fun granted graph loaded => ?_) fun _ => rfl
      have declared : session.suits (.bindCallback port listener) = true :=
        of_granted suits (fun _ => rfl) granted
      simpa [Session.suits, declares, loaded, Graph.Suits] using declared
  | observeStream stream listener =>
      exact answers (typed.bindStream fun _ _ _ => trivial) fun _ => rfl
  | bindPreview listener =>
      refine answers (typed.bindStream fun granted graph loaded => ?_) fun _ => rfl
      have declared : session.suits (.bindPreview listener) = true :=
        of_granted suits (fun _ => rfl) granted
      simpa [Session.suits, loaded, Graph.Suits] using declared
  | previewLatest =>
      refine answers (typed.previewLatest fun ⟨_, granted⟩ graph loaded => ?_) fun _ => rfl
      have declared : session.suits .previewLatest = true :=
        of_granted suits (fun _ => rfl) granted
      simpa [Session.suits, loaded, Graph.Suits] using declared
  | bindPoller port =>
      have bound := typed.bindPoller port fun ⟨_, granted⟩ =>
        of_granted suits (fun _ => rfl) granted
      rw [Session.perform]
      cases binds : session.bindPoller port with
      | mk result next =>
          rw [binds] at bound
          cases result with
          | error error => exact kept bound rfl
          | ok poller => exact bound
  | pollStream stream => exact answers (typed.pollStream stream) fun _ => rfl
  | listenForErrors listener => exact kept (typed.loses (.of_channels rfl rfl)) rfl
  | start => exact answers (typed.start coupled) fun _ => rfl
  | feed frame now => exact answers (typed.feed coupled frame now) fun _ => rfl
  | feedAt input => exact answers (typed.feedAt coupled input) fun _ => rfl
  | stop => exact kept (typed.stop coupled) rfl
  | poll poller => exact kept (typed.poll poller) rfl
  | fill poller buffer => exact kept (typed.awaitOutput poller) rfl
  | release poller => exact kept (typed.loses (poller.loses_detach session.outlets)).settle rfl
  | pollPackets poller => exact kept (typed.loses poller.loses_poll).settle rfl
  | releasePackets poller =>
      exact kept (typed.loses (session.outlets.loses_detach poller.channel)).settle rfl
  | lookAt place => exact kept typed rfl
  | take place => exact kept (typed.loses (.of_channels rfl rfl)) rfl

theorem Typed.after (typed : session.Typed kinds) (coupled : session.Coupled)
    {actions : List Action} (suited : session.suitsAll actions = true) :
    (session.after actions).Typed
      (kinds ++ (session.history actions).flatMap (·.2.expects)) := by
  induction actions generalizing session kinds with
  | nil => simpa [Session.history, Session.after] using typed
  | cons action rest ih =>
      rw [suitsAll, Bool.and_eq_true, Bool.or_eq_true] at suited
      have next := ih (typed.perform coupled suited.1) (coupled.step (session.perform_step action))
        suited.2
      rwa [List.append_assoc] at next

theorem typed_fresh (task : Task) (layout : Layout) (config : SessionConfig) :
    (opened task layout config).Typed [] := by
  refine .of_unbound ⟨⟨fun _ _ known => absurd known List.not_mem_nil,
    fun _ _ known => absurd known List.not_mem_nil, fun _ _ told => absurd told List.not_mem_nil⟩,
    fun _ found => absurd found.symm (Option.some_ne_none _)⟩ rfl

theorem expects_poll (poller : OutputPoller) (session : Session SessionEngine) :
    (session.poll poller).2.1.expects = poller.expects := by
  obtain ⟨task, source⟩ := poller
  cases source <;> rfl

theorem expects_awaitOutput (poller : OutputPoller) (session : Session SessionEngine) :
    (session.awaitOutput poller).2.1.expects = poller.expects := by
  have first := expects_poll poller session
  unfold Session.awaitOutput
  split
  · rename_i polled
    rw [polled] at first
    exact (expects_poll _ _).trans first
  · exact first

/-- A handle on outputs expects the same as when it was handed out, however often it was polled. -/
theorem expects_of_handedOut {actions : List Action} {poller : OutputPoller}
    (handed : HandedOut (session.history actions) poller) :
    ∀ entry ∈ poller.expects, entry ∈ (session.history actions).flatMap (·.2.expects) := by
  induction handed with
  | bound known => exact fun entry member => List.mem_flatMap.mpr ⟨_, known, member⟩
  | polled before known ih =>
      obtain ⟨asked, polled⟩ := exists_of_mem_history known
      simp only [Session.perform, Answer.polled.injEq] at polled
      rwa [← polled.2, expects_poll]
  | filled before known ih =>
      obtain ⟨asked, filled⟩ := exists_of_mem_history known
      simp only [Session.perform, getOutput, Answer.filled.injEq] at filled
      rwa [← filled.2.2, expects_awaitOutput]

theorem Typed.poll_ne_unexpectedPayload (typed : session.Typed kinds) {poller : OutputPoller}
    (expects : ∀ entry ∈ poller.expects, entry ∈ kinds) (stream : String)
    (wanted found : PayloadKind) :
    (session.poll poller).1 ≠ .error (.unexpectedPayload stream wanted found) :=
  OutputPoller.poll_ne_unexpectedPayload typed.engine.queues expects stream wanted found

theorem Typed.awaitOutput_ne_unexpectedPayload (typed : session.Typed kinds)
    {poller : OutputPoller} (expects : ∀ entry ∈ poller.expects, entry ∈ kinds)
    (stream : String) (wanted found : PayloadKind) :
    (session.awaitOutput poller).1 ≠ .error (.unexpectedPayload stream wanted found) := by
  have first := typed.poll_ne_unexpectedPayload expects stream wanted found
  have next := typed.poll poller
  have same := expects_poll poller session
  unfold Session.awaitOutput
  split
  · rename_i polled
    rw [polled] at next same
    exact next.poll_ne_unexpectedPayload (by rwa [same]) stream wanted found
  · exact first

theorem Typed.getOutput_ne_unexpectedPayload (typed : session.Typed kinds)
    {poller : OutputPoller} (expects : ∀ entry ∈ poller.expects, entry ∈ kinds)
    (buffer : List Element) (stream : String) (wanted found : PayloadKind) :
    (session.getOutput poller buffer).1 ≠ .error (.unexpectedPayload stream wanted found) := by
  have awaited := typed.awaitOutput_ne_unexpectedPayload expects stream wanted found
  change (OutputPoller.copy (session.awaitOutput poller).1 buffer).1 ≠ _
  unfold OutputPoller.copy
  split
  · rename_i error result
    rw [result] at awaited
    exact fun same => awaited (by cases same; rfl)
  · exact nofun
  · exact nofun
  · split
    · exact nofun
    · split <;> exact nofun

/-- Nobody meets a packet of a wrong kind: the only failures told of are errors of scripts, no
observer of a run refuses what the graph emits, and no poll with a handle that callers got. -/
structure HandlesAll (history : List (Action × Answer)) (session : Session SessionEngine) :
    Prop where
  failures : ∀ listener error, .failure listener error ∈ session.outlets.events →
    ∃ fault, error = .engineRuntime fault ∧ fault.status.code = .internal
  observers : ∀ worker, session.engine.worker = some worker →
    ∀ index input stream packet binding,
      .packet stream packet ∈ worker.graph.emissions index input →
      worker.observers.find? stream = some binding →
      ∀ outlets answer after,
        Outlets.deliver stream binding packet outlets = some (answer, after) → answer = .ok ()
  polls : ∀ poller, HandedOut history poller → ∀ stream wanted found,
    (session.poll poller).1 ≠ .error (.unexpectedPayload stream wanted found) ∧
      (session.awaitOutput poller).1 ≠ .error (.unexpectedPayload stream wanted found) ∧
      ∀ buffer,
        (session.getOutput poller buffer).1 ≠ .error (.unexpectedPayload stream wanted found)

/-- An accepted graph types all that its runs deliver. So in a session that binds streams only
for what the graph declares them to carry, whatever else is done to it, nobody meets a packet
of a wrong kind. -/
theorem handlesAll_after {text : String} {graph : Graph} (parsed : Graph.parse text = .ok graph)
    (task : Task) (layout : Layout) (config : SessionConfig) (actions : List Action)
    (suited : (opened task layout config).suitsAll actions = true) :
    graph.TypesRuns ∧
      ((opened task layout config).after actions).HandlesAll
        ((opened task layout config).history actions) := by
  have initially : (opened task layout config).Coupled :=
    coupled_fresh trivial rfl rfl task layout config
  have typed := (typed_fresh task layout config).after initially suited
  refine ⟨(Graph.wellFormed_of_parse parsed).typesRuns, typed.engine.queues.told, ?_, ?_⟩
  · intro worker left index input stream packet binding emitted observed outlets answer after
      delivered
    have works := typed.engine.worker worker left
    exact (works.suits stream binding observed).accepts works.wellFormed emitted delivered
  · intro poller handed stream wanted found
    have expects := expects_of_handedOut handed
    exact ⟨typed.poll_ne_unexpectedPayload expects stream wanted found,
      typed.awaitOutput_ne_unexpectedPayload expects stream wanted found,
      fun buffer => typed.getOutput_ne_unexpectedPayload expects buffer stream wanted found⟩

/-- An output is polled behind its presence, and frames are previewed. The one failure is that
of the script. -/
theorem handlesAll_after_previewed :
    let text := "\x7b\"preview_stream\":\"output_video\",\"output_streams\":" ++
      "\x7b\"seen\":\"presence\",\"found\":\"detections\"\x7d,\"frames\":" ++
      "[\x7b\"emit\":[\x7b\"stream\":\"found\",\"value\":\x7b\"error\":\"lost\"\x7d\x7d]\x7d]\x7d"
    let actions : List Action := [.listenForErrors 1, .configure (.text text),
      .bindPoller { output := "found", presence := some "seen" }, .bindPreview 2, .start,
      .feedAt ⟨.clamp 1, .black⟩]
    let session := (opened .detection [] {}).after actions
    (∃ graph, Graph.parse text = .ok graph ∧ graph.TypesRuns) ∧
      session.HandlesAll ((opened .detection [] {}).history actions) ∧
      session.outlets.events = [
        .failure 1 (.engineRuntime ⟨some "found", some (.clamp 1), ⟨.internal, "lost"⟩⟩),
        .preview 2 ⟨.clamp 1, .black⟩] := by
  intro text actions session
  have facts : (opened .detection [] {}).suitsAll actions = true ∧
      session.outlets.events = [
        .failure 1 (.engineRuntime ⟨some "found", some (.clamp 1), ⟨.internal, "lost"⟩⟩),
        .preview 2 ⟨.clamp 1, .black⟩] ∧
      (Graph.parse text).toOption.isSome = true := by
    decide +kernel
  obtain ⟨suited, told, accepted⟩ := facts
  obtain ⟨graph, parsed⟩ : ∃ graph, Graph.parse text = .ok graph := by
    cases parsed : Graph.parse text with
    | error violation => simp [parsed, Except.toOption] at accepted
    | ok graph => exact ⟨graph, rfl⟩
  obtain ⟨types, handles⟩ := handlesAll_after parsed .detection [] {} actions suited
  exact ⟨⟨graph, parsed, types⟩, handles, told⟩

end Session

end FrameFlow
