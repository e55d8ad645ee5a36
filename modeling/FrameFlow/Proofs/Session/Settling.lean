import FrameFlow.Proofs.Engine.Worlds
import FrameFlow.Proofs.Session.Agreement

/-!
Between operations an engine has gone on as far as it can. What it then still has to do
waits for a frame, or for room in a full queue.
-/

namespace FrameFlow

open FrontEngine (behind IsSound)

/-- What stays of a queue while packets pass through it. -/
def Channel.fitting (channel : Channel) : Option Nat × Bool :=
  (channel.capacity, channel.attached)

theorem Channel.fitting_of_send {queue sent : Channel} {packet : Packet}
    (accepted : queue.send packet = some sent) : sent.fitting = queue.fitting := by
  unfold send at accepted
  split at accepted
  · split at accepted
    · contradiction
    · cases accepted
      rfl
  · cases accepted
    rfl

namespace Outlets

variable {outlets after : Outlets} {stream : String} {packet : Packet}

/-- Only a full queue that somebody may still read makes a sender wait. -/
theorem deliver_eq_none_iff {binding : Binding} :
    deliver stream binding packet outlets = none ↔
      ∃ channel queue, binding = .poller channel ∧ outlets.channels[channel]? = some queue ∧
        queue.attached = true ∧ queue.isFull = true := by
  cases binding with
  | output task slot listener =>
      simp only [deliver, handle]
      cases task.decode stream packet.payload <;> simp
  | packets listener => simp [deliver, handle]
  | preview listener =>
      simp only [deliver, handle]
      cases packet.payload <;> simp
  | latest place =>
      simp only [deliver, handle]
      cases packet.payload <;> simp
  | poller channel =>
      have counted : (outlets.countDispatched stream .poller).channels = outlets.channels := rfl
      simp only [deliver, handle, Binding.mode, send, counted]
      cases found : outlets.channels[channel]? with
      | none => simp [found]
      | some queue =>
          cases attached : queue.attached <;> cases full : queue.isFull <;>
            simp [Channel.send, found, attached, full]

/-- A packet gets into the queue that its stream is bound to, and into no other one. -/
theorem channels_of_deliver {binding : Binding} {answer : Except Status Unit}
    (delivered : deliver stream binding packet outlets = some (answer, after)) :
    match binding with
    | .poller channel => outlets.channels[channel]? = none ∧ after.channels = outlets.channels ∨
        ∃ queue sent, outlets.channels[channel]? = some queue ∧ queue.send packet = some sent ∧
          after.channels = outlets.channels.set channel sent
    | _ => after.channels = outlets.channels := by
  simp only [deliver] at delivered
  cases binding with
  | output task slot listener =>
      simp only [handle] at delivered
      split at delivered <;> cases delivered <;> rfl
  | packets listener =>
      cases delivered
      rfl
  | preview listener =>
      simp only [handle] at delivered
      split at delivered <;> cases delivered <;> rfl
  | latest place =>
      simp only [handle] at delivered
      split at delivered <;> cases delivered <;> rfl
  | poller channel =>
      have counted : (outlets.countDispatched stream .poller).channels = outlets.channels := rfl
      simp only [handle, Binding.mode, send, counted] at delivered
      cases found : outlets.channels[channel]? with
      | none =>
          simp only [found] at delivered
          cases delivered
          exact .inl ⟨found, rfl⟩
      | some queue =>
          simp only [found, Option.map_map, Option.map_eq_some_iff] at delivered
          obtain ⟨sent, accepted, same⟩ := delivered
          cases same
          exact .inr ⟨queue, sent, found, accepted, rfl⟩

def fittings (outlets : Outlets) : List (Option Nat × Bool) :=
  outlets.channels.map Channel.fitting

theorem fittings_of_deliver {binding : Binding} {answer : Except Status Unit}
    (delivered : deliver stream binding packet outlets = some (answer, after)) :
    after.fittings = outlets.fittings := by
  have channels := channels_of_deliver delivered
  cases binding with
  | poller channel =>
      rcases channels with ⟨_, same⟩ | ⟨queue, sent, found, accepted, same⟩
      · rw [fittings, same, fittings]
      · refine List.ext_getElem? fun position => ?_
        simp only [fittings, same, List.getElem?_map, List.getElem?_set]
        split
        · rename_i here
          subst here
          obtain ⟨inside, present⟩ := List.getElem?_eq_some_iff.mp found
          simp [inside, present, Channel.fitting_of_send accepted]
        · rfl
  | _ => rw [fittings, channels, fittings]

def HasCapacity (capacity : Option Nat) (outlets : Outlets) : Prop :=
  ∀ queue ∈ outlets.channels, queue.capacity = (Channel.ofCapacity capacity).capacity

variable {capacity : Option Nat}

theorem HasCapacity.extended (sized : HasCapacity capacity outlets)
    (extended : outlets.Extends capacity after) : HasCapacity capacity after := by
  obtain ⟨count, channels⟩ := extended.channels
  intro queue member
  rw [channels] at member
  rcases List.mem_append.mp member with old | new
  · exact sized queue old
  · rw [List.eq_of_mem_replicate new]

theorem HasCapacity.eased (sized : HasCapacity capacity outlets) (eased : outlets.Eases after) :
    HasCapacity capacity after := by
  intro queue member
  have known := List.mem_map_of_mem (f := (·.capacity)) member
  rw [eased.capacities] at known
  obtain ⟨old, present, same⟩ := List.mem_map.mp known
  exact same.symm.trans (sized old present)

theorem HasCapacity.of_fittings (sized : HasCapacity capacity outlets)
    (same : after.fittings = outlets.fittings) : HasCapacity capacity after := by
  intro queue member
  have known := List.mem_map_of_mem (f := Channel.fitting) member
  rw [← fittings, same] at known
  obtain ⟨old, present, alike⟩ := List.mem_map.mp known
  exact (congrArg Prod.fst alike).symm.trans (sized old present)

def attachedCount (outlets : Outlets) : Nat := outlets.fittings.countP (·.2)

theorem attachedCount_detach {channel : ChannelId} {queue : Channel}
    (found : outlets.channels[channel]? = some queue) (attached : queue.attached = true) :
    (outlets.detach channel).attachedCount < outlets.attachedCount := by
  simp only [attachedCount, fittings, detach, List.countP_map]
  generalize outlets.channels = channels at found
  induction channels generalizing channel with
  | nil => contradiction
  | cons first others ih =>
      cases channel with
      | zero =>
          cases found
          simp [Channel.detach, Channel.fitting, attached]
      | succ position =>
          have fewer := ih found
          simp only [List.modify_succ_cons, List.countP_cons]
          omega

end Outlets

namespace SessionEngine

theorem reaction_keeps (fittings : List (Option Nat × Bool)) :
    SessionEngine.reaction.Keeps (·.fittings = fittings) where
  deliver := by
    intro stream binding packet outlets answer after same delivered
    exact (Outlets.fittings_of_deliver delivered).trans same
  report := by
    intro sink fault outlets same
    simp only [SessionEngine.reaction, Outlets.report]
    split <;> exact same

def HoldsUp (worker : Worker Binding Unit) (outlets : Outlets) : Prop :=
  ∃ stream packet rest channel queue, worker.current = .packet stream packet :: rest ∧
    worker.observers.find? stream = some (.poller channel) ∧
    outlets.channels[channel]? = some queue ∧ queue.attached = true ∧ queue.isFull = true

theorem holdsUp_of_isHeld {worker : Worker Binding Unit} {outlets : Outlets}
    (held : worker.IsHeld SessionEngine.reaction outlets) : HoldsUp worker outlets := by
  obtain ⟨emission, rest, current, waits⟩ := held
  cases emission with
  | fault fault => contradiction
  | packet stream packet =>
      cases found : worker.observers.find? stream with
      | none => simp [Reaction.emit, found] at waits
      | some binding =>
          simp only [Reaction.emit, found, Option.map_eq_none_iff] at waits
          obtain ⟨channel, queue, rfl, present, attached, full⟩ :=
            Outlets.deliver_eq_none_iff.mp waits
          exact ⟨stream, packet, rest, channel, queue, current, found, present, attached, full⟩

theorem HoldsUp.extended {worker : Worker Binding Unit} {outlets after : Outlets}
    {capacity : Option Nat} (holdsUp : HoldsUp worker outlets)
    (extended : outlets.Extends capacity after) : HoldsUp worker after := by
  obtain ⟨stream, packet, rest, channel, queue, current, found, present, attached, full⟩ := holdsUp
  obtain ⟨count, channels⟩ := extended.channels
  refine ⟨stream, packet, rest, channel, queue, current, found, ?_, attached, full⟩
  have inside := (List.getElem?_eq_some_iff.mp present).1
  rw [channels, List.getElem?_append_left inside, present]

end SessionEngine

namespace FrontEngine

open GraphEngine

variable {ε : Type} [FrontEngine ε]

theorem advance_rests (engine : ε) (outlets : Outlets) {worker : Worker Binding Unit}
    (left : (behind (advance engine outlets).1).worker = some worker) :
    SessionEngine.HoldsUp worker (advance engine outlets).2 ∨
      (behind (advance engine outlets).1).isInputOpen = true := by
  rw [behind_advance, advance_outlets] at *
  have opened : ((behind engine).advance SessionEngine.reaction outlets).1.isInputOpen =
      (behind engine).isInputOpen := by
    rw [ScriptedEngine.isInputOpen, ScriptedEngine.advance_run, ScriptedEngine.isInputOpen]
  rcases ScriptedEngine.advance_rests left with held | ⟨_, waits⟩
  · exact .inl (SessionEngine.holdsUp_of_isHeld held)
  · exact .inr (opened.trans waits)

theorem fittings_advance (engine : ε) (outlets : Outlets) :
    (advance engine outlets).2.fittings = outlets.fittings := by
  rw [advance_outlets]
  exact ScriptedEngine.advance_keeps (SessionEngine.reaction_keeps _) (behind engine) rfl

/-- Whichever way a run ends, the last thing is that the engine goes on as far as it can. -/
theorem endRun_eq_advance (inputStream : String) (engine : ε) (outlets : Outlets) :
    ∃ last before, before.fittings = outlets.fittings ∧
      Session.endRun inputStream engine outlets = advance (last : ε) before := by
  unfold Session.endRun
  cases closed : closeInput inputStream engine with
  | mk result middle =>
      cases result with
      | error status => exact ⟨_, outlets, rfl, rfl⟩
      | ok done =>
          have kept := fittings_advance middle outlets
          simp only
          cases waitUntilDone (advance middle outlets).1 with
          | mk result last => cases result <;> exact ⟨_, _, kept, rfl⟩

end FrontEngine

namespace Session

variable {ε : Type} [FrontEngine ε] {session next : Session ε} {action : Action}
  {answer : Answer}

/-- The engine behind has gone on as far as it can, and queues are as large as the session
makes them. -/
structure Settled (session : Session ε) : Prop where
  worker : ∀ worker, (behind session.engine).worker = some worker →
    SessionEngine.HoldsUp worker session.outlets ∨
      (behind session.engine).isInputOpen = true
  capacity : session.bindings.capacity = session.config.pollerCapacity
  sized : session.outlets.HasCapacity session.config.pollerCapacity

theorem settled_fresh {engine : ε} (idle : (behind engine).worker = none) (task : Task)
    (layout : Layout) (config : SessionConfig) : (fresh engine task layout config).Settled where
  worker _ found := nomatch idle.symm.trans found
  capacity := rfl
  sized _ member := nomatch member

theorem Settled.framed (settled : session.Settled)
    (worker : (behind next.engine).worker = (behind session.engine).worker)
    (run : (behind next.engine).run = (behind session.engine).run)
    (config : next.config = session.config)
    (capacity : next.bindings.capacity = session.bindings.capacity)
    (extended : session.outlets.Extends session.bindings.capacity next.outlets) :
    next.Settled where
  worker found known := by
    rw [ScriptedEngine.isInputOpen, run]
    rw [worker] at known
    exact (settled.worker found known).imp_left (·.extended extended)
  capacity := by rw [capacity, settled.capacity, config]
  sized := by
    rw [config]
    rw [settled.capacity] at extended
    exact settled.sized.extended extended

theorem settled_advance {engine : ε} {outlets : Outlets}
    (capacity : session.bindings.capacity = session.config.pollerCapacity)
    (sized : outlets.HasCapacity session.config.pollerCapacity) (lifecycle : Lifecycle) :
    Settled { session with
      engine := (GraphEngine.advance engine outlets).1
      outlets := (GraphEngine.advance engine outlets).2
      lifecycle } where
  worker _ left := FrontEngine.advance_rests engine outlets left
  capacity := capacity
  sized := sized.of_fittings (FrontEngine.fittings_advance engine outlets)

theorem Settled.settle
    (capacity : session.bindings.capacity = session.config.pollerCapacity)
    (sized : session.outlets.HasCapacity session.config.pollerCapacity) :
    session.settle.Settled :=
  settled_advance capacity sized session.lifecycle

theorem Settled.polled (settled : session.Settled) (polled : session.Polled next) :
    next.Settled := by
  induction polled with
  | once eased => exact .settle settled.capacity (settled.sized.eased eased)
  | again before eased ih => exact .settle ih.capacity (ih.sized.eased eased)

theorem Settled.step (coupled : session.Coupled) (settled : session.Settled)
    (step : session.Step action answer next) : next.Settled := by
  cases step with
  | rejected error rejected => exact settled.framed rfl rfl rfl rfl (.of_channels rfl rfl)
  | tended extended granted silent => exact settled.framed rfl rfl rfl rfl extended
  | @misconfigured source text error result engine state read loaded =>
      obtain ⟨_, graph, observers, same, _⟩ := FrontEngine.load_spec text coupled.sound
      rw [loaded] at same
      exact settled.framed (by rw [same]) (by rw [same]) rfl rfl (.refl _)
  | @configured source text engine state read loaded found =>
      obtain ⟨_, graph, observers, same, _⟩ := FrontEngine.load_spec text coupled.sound
      rw [loaded] at same
      exact settled.framed (by rw [same]) (by rw [same]) rfl rfl (.refl _)
  | bound configured capacity extended granted silent =>
      exact settled.framed rfl rfl rfl capacity extended
  | launched configured begun => exact .settle settled.capacity settled.sized
  | @aborted status engine configured begun =>
      obtain ⟨_, graph, sink, same⟩ := coupled.abort_spec configured begun
      exact settled.framed (by rw [same]) (by rw [same]) rfl rfl (.refl _)
  | @withheld _ input status engine checked given =>
      have same := (FrontEngine.behind_of_error
        (.addPacket session.config.inputStream input) coupled.sound given).2
      exact settled.framed (by rw [same]) (by rw [same]) rfl rfl (.of_channels rfl rfl)
  | fed checked given granted records => exact .settle settled.capacity settled.sized
  | @drained engine outlets running ended =>
      obtain ⟨last, before, fittings, same⟩ := FrontEngine.endRun_eq_advance
        session.config.inputStream session.engine session.outlets
      rw [ended, Prod.mk.injEq] at same
      obtain ⟨rfl, rfl⟩ := same
      exact settled_advance settled.capacity (settled.sized.of_fittings fittings)
        session.lifecycle.stopped
  | dropped configured => exact settled.framed rfl rfl rfl rfl (.refl _)
  | polled polled granted silent => exact settled.polled polled

theorem Settled.through (coupled : session.Coupled) (settled : session.Settled)
    (actions : List Action) : (session.after actions).Settled := by
  induction actions generalizing session with
  | nil => exact settled
  | cons action rest ih =>
      have step := session.perform_step action
      exact ih (coupled.step step) (settled.step coupled step)

theorem Settled.holdsUp (settled : session.Settled) (coupled : session.Coupled)
    (resting : session.state ≠ .running) {worker : Worker Binding Unit}
    (left : (behind session.engine).worker = some worker) :
    SessionEngine.HoldsUp worker session.outlets := by
  rcases settled.worker worker left with held | opened
  · exact held
  · simp [ScriptedEngine.isInputOpen, coupled.agrees.resting resting] at opened

/-- Queues without a bound are never full. -/
theorem Settled.not_holdsUp (settled : session.Settled)
    (unbounded : session.config.pollerCapacity = none) (worker : Worker Binding Unit) :
    ¬ SessionEngine.HoldsUp worker session.outlets := by
  rintro ⟨stream, packet, rest, channel, queue, _, _, present, _, full⟩
  have capacity := settled.sized queue (List.mem_of_getElem? present)
  have boundless : queue.capacity = none := by
    rw [capacity, unbounded]
    rfl
  simp [Channel.isFull, boundless] at full

/-- With queues without a bound, everything is worked off when a session rests. -/
theorem Settled.idle (settled : session.Settled) (coupled : session.Coupled)
    (resting : session.state ≠ .running) (unbounded : session.config.pollerCapacity = none) :
    (behind session.engine).worker = none := by
  refine Option.eq_none_iff_forall_ne_some.mpr fun worker left => ?_
  exact settled.not_holdsUp unbounded worker (settled.holdsUp coupled resting left)

/-- A worker that is left at rest ends when the pollers it waits for are given up. -/
theorem Settled.exists_freed (settled : session.Settled) (coupled : session.Coupled)
    (resting : session.state ≠ .running) :
    ∃ given : List Poller,
      let freed := session.after (given.map .releasePackets)
      (behind freed.engine).worker = none ∧ freed.lifecycle = session.lifecycle := by
  -- Every poller that is given up leaves fewer queues to wait for.
  induction count : session.outlets.attachedCount using Nat.strongRecOn generalizing session with
  | ind number ih =>
      cases left : (behind session.engine).worker with
      | none => exact ⟨[], left, rfl⟩
      | some worker =>
          obtain ⟨stream, _, _, channel, queue, _, _, found, attached, _⟩ :=
            settled.holdsUp coupled resting left
          let released := session.releasePackets ⟨stream, channel⟩
          have step := session.perform_step (.releasePackets ⟨stream, channel⟩)
          have fewer : released.outlets.attachedCount < number := by
            have detached := Outlets.attachedCount_detach found attached
            have kept := FrontEngine.fittings_advance session.engine
              (session.outlets.detach channel)
            rw [← count]
            refine Nat.lt_of_le_of_lt (Nat.le_of_eq ?_) detached
            exact congrArg (List.countP (·.2)) kept
          obtain ⟨given, freed, same⟩ :=
            ih _ fewer (settled.step coupled step) (coupled.step step) resting rfl
          exact ⟨⟨stream, channel⟩ :: given, freed, same⟩

end Session

end FrameFlow
