import FrameFlow.Proofs.Session.Books
import FrameFlow.Proofs.Session.Launching
import FrameFlow.Proofs.Session.Service

/-!
A session whose queues are never full, between frames. Its engine has worked off all that it
took and awaits the next frame; a frame that it takes then is emitted whole, before anything else
is asked of the session.
-/

namespace FrameFlow

theorem ScriptedEngine.advance_of_owed_nil {η φ ω : Type} (reaction : Reaction η φ ω)
    (engine : ScriptedEngine η φ) (nothing : engine.owed = []) (world : ω) :
    (engine.advance reaction world).2 = world ∧ (engine.advance reaction world).1.owed = [] := by
  cases found : engine.worker with
  | none =>
      have idle : engine.advance reaction world = (engine, world) := by
        simp only [advance, found]
      rw [idle]
      exact ⟨rfl, nothing⟩
  | some worker =>
      obtain ⟨done, owed, emits, _⟩ := exists_emits reaction found world
      rw [nothing] at owed
      obtain ⟨rfl, rest⟩ := List.append_eq_nil_iff.mp owed.symm
      refine ⟨?_, rest⟩
      generalize (engine.advance reaction world).2 = after at emits
      cases emits
      rfl

namespace Session

variable {session next : Session SessionEngine} {graph : Graph} {bindings : StreamMap Binding}
  {count : Nat}

/-- No queue is ever full: none has a bound, or no stream has a queue. -/
def HasRoom (capacity : Option Nat) (bindings : StreamMap Binding) : Prop :=
  capacity = none ∨ ∀ stream channel, bindings.find? stream ≠ some (.poller channel)

/-- Where there is always room, no worker has to wait. -/
theorem Settled.not_holdsUp_of_room (settled : session.Settled)
    (room : HasRoom session.config.pollerCapacity bindings) {worker : Worker Binding Unit}
    (alike : ∀ stream, worker.observers.find? stream = bindings.find? stream) :
    ¬ SessionEngine.HoldsUp worker session.outlets := by
  intro held
  rcases room with unbounded | unqueued
  · exact settled.not_holdsUp unbounded worker held
  · obtain ⟨stream, _, _, channel, _, _, queued, _⟩ := held
    exact unqueued stream channel ((alike stream).symm.trans queued)

/-- A run that has taken a number of frames and has nothing to do until the next one. -/
structure Awaits (graph : Graph) (bindings : StreamMap Binding) (count : Nat)
    (session : Session SessionEngine) : Prop where
  coupled : session.Coupled
  settled : session.Settled
  room : HasRoom session.config.pollerCapacity bindings
  running : session.state = .running
  cleared : session.bindings.bindings = .empty
  worker : ∃ observers, (∀ stream, observers.find? stream = bindings.find? stream) ∧
    session.engine.worker = some { graph, observers, sink := some (), index := count }

theorem Launched.awaits {bound : Session SessionEngine} (launched : Launched graph bound session)
    (coupled : session.Coupled) (settled : session.Settled)
    (room : HasRoom session.config.pollerCapacity bound.bindings.bindings) :
    session.Awaits graph bound.bindings.bindings 0 := by
  obtain ⟨observers, begins, alike⟩ := launched.worker
  exact ⟨coupled, settled, room, launched.running, by rw [launched.bindings]; rfl, observers,
    alike, begins⟩

/-- An engine that awaits a frame does nothing when queues are looked into. -/
theorem Awaits.settle_eq (awaits : session.Awaits graph bindings count) (outlets : Outlets) :
    settle { session with outlets } = { session with outlets } := by
  obtain ⟨observers, _, found⟩ := awaits.worker
  have still : GraphEngine.advance session.engine outlets = (session.engine, outlets) :=
    ScriptedEngine.advance_of_idle found rfl
      (isInputOpen_of_running awaits.coupled awaits.running) outlets
  simp only [settle, still]

theorem Awaits.withOutlets (awaits : session.Awaits graph bindings count) (outlets : Outlets)
    (sized : outlets.HasCapacity session.config.pollerCapacity) :
    Awaits graph bindings count { session with outlets } where
  coupled := awaits.coupled.withOutlets outlets
  settled := by
    rw [← awaits.settle_eq outlets]
    exact .settle awaits.settled.capacity sized
  room := awaits.room
  running := awaits.running
  cleared := awaits.cleared
  worker := awaits.worker

/-- Where there is always room, a worker that was let go on has nothing left to do. -/
theorem Settled.isIdle_of_room (settled : session.settle.Settled)
    (room : HasRoom session.config.pollerCapacity bindings) {worker : Worker Binding Unit}
    (known : session.settle.engine.worker = some worker)
    (alike : ∀ stream, worker.observers.find? stream = bindings.find? stream) :
    worker.isIdle = true := by
  have known : (session.engine.advance SessionEngine.reaction session.outlets).1.worker =
      some worker := known
  rcases ScriptedEngine.advance_rests known with held | ⟨idle, _⟩
  · have holdsUp := SessionEngine.holdsUp_of_isHeld held
    exact absurd holdsUp (settled.not_holdsUp_of_room room alike)
  · exact idle

/-- A frame that is in order is taken, and all that is emitted for it takes effect. -/
theorem Awaits.feed (awaits : session.Awaits graph bindings count) (input : StampedFrame)
    (checked : session.lifecycle.checkStamp input.timestamp = .ok ()) :
    ∃ next, session.feedAt input = (.ok (), next) ∧ next.Awaits graph bindings (count + 1) ∧
      next.lifecycle = session.lifecycle.accepted input.timestamp ∧
      next.layout = session.layout ∧ next.config = session.config ∧ ∃ observers,
        (∀ stream, observers.find? stream = bindings.find? stream) ∧
        SessionEngine.reaction.Emits observers (some ()) (graph.emissions count input)
          session.outlets.countFed next.outlets := by
  obtain ⟨run, fed⟩ := awaits.coupled.agrees.feedAt_of_checked awaits.running checked
  obtain ⟨observers, alike, found⟩ := awaits.worker
  let accepted : SessionEngine := session.engine.accept run input
  let worked := accepted.advance SessionEngine.reaction session.outlets.countFed
  have given : accepted.worker = some (Worker.enqueue
      { graph, observers, sink := some (), index := count } input) := by
    change (session.engine.accept run input).worker = _
    rw [ScriptedEngine.accept, found]
    rfl
  have step := session.perform_step (.feedAt input)
  simp only [perform, fed, answered] at step
  have coupled := awaits.coupled.step step
  have settled := awaits.settled.step awaits.coupled step
  obtain ⟨done, owed, emits, continues⟩ :=
    ScriptedEngine.exists_emits SessionEngine.reaction given session.outlets.countFed
  obtain ⟨left, known⟩ := Option.isSome_iff_exists.mp
    (works_settle coupled awaits.running (Option.isSome_iff_exists.mpr ⟨_, given⟩))
  have goesOn := continues left known
  have idle : left.isIdle = true := settled.isIdle_of_room awaits.room known fun stream => by
    rw [goesOn.observers]
    exact alike stream
  -- What was owed is all of the script for this frame, and nothing of it is left.
  have whole : done = graph.emissions count input := by
    have before : session.engine.owed = [] := by
      rw [ScriptedEngine.owed, found]
      rfl
    have known : worked.1.worker = some left := known
    have rest : worked.1.owed = [] := by
      rw [ScriptedEngine.owed, known]
      exact ScriptedEngine.owed_of_isIdle idle
    calc done = done ++ worked.1.owed := by rw [rest, List.append_nil]
      _ = accepted.owed := owed.symm
      _ = session.engine.owed ++ graph.emissions count input :=
          ScriptedEngine.owed_accept found run input
      _ = graph.emissions count input := by rw [before, List.nil_append]
  rw [whole] at emits
  refine ⟨_, fed, ⟨coupled, settled, awaits.room, awaits.running, awaits.cleared, observers,
    alike, ?_⟩, rfl, rfl, rfl, observers, alike, emits⟩
  rw [known, goesOn.eq_of_isIdle idle]
  rfl

/-- A stop ends the run; nothing was left to be emitted. -/
theorem Awaits.stop (awaits : session.Awaits graph bindings count) :
    session.stop.Released ∧ session.stop.outlets = session.outlets ∧
      session.stop.lifecycle = session.lifecycle.stopped := by
  have nothing : session.engine.owed = [] := by
    obtain ⟨observers, _, found⟩ := awaits.worker
    rw [ScriptedEngine.owed, found]
    rfl
  obtain ⟨run, ended⟩ := awaits.coupled.agrees.endRun_eq awaits.running
  let closed : SessionEngine := { session.engine with run := some run }
  obtain ⟨first, still⟩ := ScriptedEngine.advance_of_owed_nil SessionEngine.reaction
    closed nothing session.outlets
  let worked := closed.advance SessionEngine.reaction session.outlets
  obtain ⟨second, _⟩ := ScriptedEngine.advance_of_owed_nil SessionEngine.reaction
    { worked.1 with run := none } still worked.2
  have step := session.stop_step
  have coupled : session.stop.Coupled := awaits.coupled.step step
  have settled : session.stop.Settled := awaits.settled.step awaits.coupled step
  have stopped : session.stop = { session with
      engine := (endRun session.config.inputStream session.engine session.outlets).1
      outlets := (endRun session.config.inputStream session.engine session.outlets).2
      lifecycle := session.lifecycle.stopped } := by
    simp only [Session.stop, awaits.running]
  have rests : session.stop.state ≠ .running := by
    rw [stopped]
    simp [Session.state, Lifecycle.stopped]
  have done : session.stop.engine.owed = [] := by
    rw [stopped, ended]
    exact (ScriptedEngine.advance_of_owed_nil SessionEngine.reaction
      { worked.1 with run := none } still worked.2).2
  refine ⟨⟨?_, coupled.agrees.observers, ?_⟩, ?_, ?_⟩
  · rw [stopped]
    exact awaits.cleared
  · refine Option.eq_none_iff_forall_ne_some.mpr fun worker left => ?_
    obtain ⟨stream, packet, rest, _, _, current, _⟩ := settled.holdsUp coupled rests left
    have left : session.stop.engine.worker = some worker := left
    rw [ScriptedEngine.owed, left] at done
    simp [Worker.owed, current] at done
  · rw [stopped, ended]
    exact second.trans first
  · rw [stopped]

/-- While a run awaits frames, the queues that streams are bound to are open, and no others. -/
theorem Awaits.isOpen_iff (awaits : session.Awaits graph bindings count) (channel : ChannelId) :
    session.isOpen channel = true ↔ ∃ stream, bindings.find? stream = some (.poller channel) := by
  obtain ⟨observers, alike, found⟩ := awaits.worker
  have unbound : session.bindings.holds channel = false := by
    rw [BindingTable.holds, awaits.cleared]
    rfl
  have unobserved : session.engine.observers = .empty := awaits.coupled.agrees.observers
  have held : session.engine.heldObservers = observers.entries := by
    rw [ScriptedEngine.heldObservers, unobserved, found]
    rfl
  have same : session.isOpen channel =
      observers.entries.any fun entry => entry.2.channel? == some channel := by
    rw [Session.isOpen, unbound, ← held]
    rfl
  rw [same, StreamMap.any_channel_iff]
  exact exists_congr fun stream => by rw [alike]

end Session

end FrameFlow
