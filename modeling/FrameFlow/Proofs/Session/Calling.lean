import FrameFlow.Proofs.Session.Launching
import FrameFlow.Proofs.Session.Typing
import Mathlib.Data.List.Basic

/-!
A callback while its session runs. Whatever else is bound, it is called for the packets of its
stream in order; a packet that it cannot use becomes a fault that the error listener is told of.
-/

namespace FrameFlow

/-- What a packet leads to where it is handed to a callback: a call, or a fault. -/
inductive Sighting where
  | called (timestamp : Timestamp) (output : Output)
  | faulted (fault : Fault)
deriving DecidableEq

/-- A listener that is called with the outputs of a port, and the one that is told of
failures. -/
structure Callback where
  task : Task
  port : Port
  listener : Listener
  errors : Listener

namespace Callback

variable {callback : Callback}

/-- A fault of a packet on the callback's stream. Faults of a script are not invalid arguments
but internal errors. -/
def refused (callback : Callback) (fault : Fault) : Bool :=
  fault.stream == some callback.port.output && fault.status.code == .invalidArgument

def sighting? (callback : Callback) : Event → Option Sighting
  | .output listener slot timestamp output =>
      if listener = callback.listener ∧ slot = callback.port.slot then
        some (.called timestamp output)
      else none
  | .failure listener (.engineRuntime fault) =>
      if listener = callback.errors ∧ callback.refused fault = true then some (.faulted fault)
      else none
  | _ => none

/-- What callers have been told through a callback. -/
def seen (callback : Callback) (outlets : Outlets) : List Sighting :=
  outlets.events.filterMap callback.sighting?

def see (callback : Callback) (packet : Packet) : Sighting :=
  match callback.task.decode callback.port.output packet.payload with
  | .ok output => .called packet.timestamp output
  | .error error =>
      .faulted ⟨some callback.port.output, some packet.timestamp,
        ⟨.invalidArgument, error.message⟩⟩

def sightings (callback : Callback) : Emission → List Sighting
  | .packet stream packet => if stream = callback.port.output then [callback.see packet] else []
  | .fault fault => if callback.refused fault then [.faulted fault] else []

/-- A run leads to sightings of the packets on the callback's stream. -/
theorem sightings_emissionsFrom (callback : Callback) (graph : Graph) (index : Nat)
    (frames : List StampedFrame) :
    (graph.emissionsFrom index frames).flatMap callback.sightings =
      (graph.packetsOn callback.port.output index frames).map callback.see := by
  induction frames generalizing index with
  | nil => rfl
  | cons input rest ih =>
      rw [Graph.emissionsFrom, List.flatMap_append, ih, Graph.packetsOn_cons index input rest,
        List.map_append, Graph.packetsOn_singleton, List.map_flatMap]
      congr 1
      apply List.flatMap_congr
      intro emission member
      cases emission with
      | packet stream packet =>
          by_cases same : stream = callback.port.output <;> simp [sightings, Emission.on, same]
      | fault fault =>
          have code := Graph.code_of_mem_emissions member
          simp [sightings, Emission.on, refused, code]

/-- The stream of the port, and no other one, is bound to the callback. -/
structure IsBound (callback : Callback) (bindings : StreamMap Binding) : Prop where
  own : bindings.find? callback.port.output =
    some (.output callback.task callback.port.slot callback.listener)
  alone : ∀ stream task,
    bindings.find? stream = some (.output task callback.port.slot callback.listener) →
      stream = callback.port.output

theorem seen_report {outlets : Outlets}
    (listens : outlets.errorListener = some callback.errors) (fault : Fault) :
    (outlets.report fault).errorListener = some callback.errors ∧
      callback.seen (outlets.report fault) =
        callback.seen outlets ++ if callback.refused fault then [.faulted fault] else [] := by
  simp only [Outlets.report, listens]
  refine ⟨rfl, ?_⟩
  rw [seen, Outlets.tell, List.filterMap_append]
  cases mine : callback.refused fault <;> simp [sighting?, mine, seen]

/-- What is told of a packet on another stream does not concern the callback. -/
theorem IsBound.sighting?_told {bindings : StreamMap Binding} (bound : callback.IsBound bindings)
    {stream : String} {binding : Binding} (found : bindings.find? stream = some binding)
    (other : stream ≠ callback.port.output) (packet : Packet) :
    (Outlets.told stream packet binding).filterMap callback.sighting? = [] := by
  cases binding with
  | output task slot listener =>
      simp only [Outlets.told]
      cases task.decode stream packet.payload with
      | error error => rfl
      | ok output =>
          have unlike : ¬ (listener = callback.listener ∧ slot = callback.port.slot) := by
            rintro ⟨rfl, rfl⟩
            exact other (bound.alone stream task found)
          simp [sighting?, unlike]
  | preview listener =>
      simp only [Outlets.told]
      split <;> rfl
  | _ => rfl

/-- A packet that is handed to the callback becomes a call, or is reported as a fault. -/
theorem IsBound.emit_own {observers : StreamMap Binding} (bound : callback.IsBound observers)
    {packet : Packet} {outlets after : Outlets}
    (listens : outlets.errorListener = some callback.errors)
    (emitted : SessionEngine.reaction.emit observers (some ())
      (.packet callback.port.output packet) outlets = some after) :
    after.errorListener = some callback.errors ∧
      callback.seen after = callback.seen outlets ++ [callback.see packet] := by
  simp only [Reaction.emit, bound.own, SessionEngine.reaction, Outlets.deliver, Outlets.handle]
    at emitted
  rw [see]
  cases decoded : callback.task.decode callback.port.output packet.payload with
  | ok output =>
      rw [decoded] at emitted
      cases emitted
      refine ⟨listens, ?_⟩
      simp [seen, Outlets.tell, Outlets.countDispatched, sighting?]
  | error error =>
      rw [decoded] at emitted
      cases emitted
      let fault : Fault := ⟨some callback.port.output, some packet.timestamp,
        ⟨.invalidArgument, error.message⟩⟩
      have mine : callback.refused fault = true := by simp [refused, fault]
      have reported := @seen_report callback
        (outlets.countDispatched callback.port.output .callback) listens fault
      rwa [mine] at reported

/-- Packets on other streams are not seen through the callback, and neither are faults of
them. -/
theorem IsBound.emit_other {observers : StreamMap Binding} (bound : callback.IsBound observers)
    {stream : String} {packet : Packet} {outlets after : Outlets}
    (listens : outlets.errorListener = some callback.errors)
    (other : stream ≠ callback.port.output)
    (emitted : SessionEngine.reaction.emit observers (some ()) (.packet stream packet) outlets =
      some after) :
    after.errorListener = some callback.errors ∧ callback.seen after = callback.seen outlets := by
  cases found : observers.find? stream with
  | none =>
      simp only [Reaction.emit, found, Option.some.injEq] at emitted
      subst emitted
      exact ⟨listens, rfl⟩
  | some binding =>
      simp only [Reaction.emit, found, Option.map_eq_some_iff] at emitted
      obtain ⟨⟨answer, middle⟩, delivered, rfl⟩ := emitted
      obtain ⟨events, kept⟩ := Outlets.events_of_deliver delivered
      have unseen : callback.seen middle = callback.seen outlets := by
        rw [seen, events, List.filterMap_append, bound.sighting?_told found other,
          List.append_nil, seen]
      cases answer with
      | ok done => exact ⟨kept.trans listens, unseen⟩
      | error status =>
          let fault : Fault := ⟨some stream, some packet.timestamp, status⟩
          have strange : callback.refused fault = false := by simp [refused, fault, other]
          obtain ⟨still, same⟩ := seen_report (kept.trans listens) fault
          rw [strange, unseen] at same
          exact ⟨still, same.trans (List.append_nil _)⟩

theorem IsBound.brings {observers : StreamMap Binding} (bound : callback.IsBound observers) :
    SessionEngine.reaction.Brings observers (some ())
      (fun outlets => outlets.errorListener = some callback.errors) callback.seen
      callback.sightings where
  emit := by
    intro emission world after listens emitted
    cases emission with
    | fault fault =>
        cases emitted
        exact seen_report listens fault
    | packet stream packet =>
        by_cases own : stream = callback.port.output
        · subst own
          obtain ⟨still, seen⟩ := bound.emit_own listens emitted
          exact ⟨still, by rw [seen, sightings, if_pos rfl]⟩
        · obtain ⟨still, seen⟩ := bound.emit_other listens own emitted
          exact ⟨still, by rw [seen, sightings, if_neg own, List.append_nil]⟩

/-- What was seen through a callback since some time, and what its worker still owes it, is what
all frames lead to. -/
structure IsCalled (callback : Callback) (graph : Graph) (past : List Sighting)
    (frames : List StampedFrame) (engine : SessionEngine) (outlets : Outlets) : Prop where
  listens : outlets.errorListener = some callback.errors
  worker : ∀ worker, engine.worker = some worker →
    worker.graph = graph ∧ callback.IsBound worker.observers ∧ worker.sink = some () ∧
      worker.index + worker.waiting.length = frames.length
  brought : callback.seen outlets ++ engine.owed.flatMap callback.sightings =
    past ++ (graph.emissionsFrom 0 frames).flatMap callback.sightings

theorem lasting_isCalled (callback : Callback) (graph : Graph) (past : List Sighting) :
    Service.Lasting (callback.IsCalled graph past) where
  counted calls _ := ⟨calls.listens, calls.worker, calls.brought⟩
  withRun calls _ := ⟨calls.listens, calls.worker, calls.brought⟩
  accept := by
    intro frames engine outlets calls works run input
    obtain ⟨worker, found⟩ := Option.isSome_iff_exists.mp works
    obtain ⟨played, bound, sink, position⟩ := calls.worker worker found
    refine ⟨calls.listens, ?_, ?_⟩
    · intro left known
      have given : (engine.accept run input).worker = some (worker.enqueue input) := by
        rw [ScriptedEngine.accept, found]
        rfl
      cases given.symm.trans known
      refine ⟨played, bound, sink, ?_⟩
      have longer : (worker.enqueue input).waiting.length = worker.waiting.length + 1 :=
        List.length_append
      rw [longer, List.length_append, ← position]
      rfl
    · rw [ScriptedEngine.owed_accept found, played, position, List.flatMap_append,
        ← List.append_assoc, calls.brought, Graph.emissionsFrom_append, List.flatMap_append,
        Nat.zero_add, Graph.emissionsFrom, Graph.emissionsFrom, List.append_nil,
        List.append_assoc]
  advance := by
    intro frames engine outlets calls
    cases found : engine.worker with
    | none =>
        have idle : engine.advance SessionEngine.reaction outlets = (engine, outlets) := by
          simp only [ScriptedEngine.advance, found]
        rw [idle]
        exact calls
    | some worker =>
        obtain ⟨played, bound, sink, position⟩ := calls.worker worker found
        have brings := bound.brings
        rw [← sink] at brings
        obtain ⟨listens, same, continues⟩ :=
          ScriptedEngine.advance_brings found brings calls.listens
        refine ⟨listens, ?_, same.trans calls.brought⟩
        intro left known
        have goesOn := continues left known
        exact ⟨goesOn.graph.trans played, goesOn.observers ▸ bound, goesOn.sink.trans sink,
          goesOn.position.trans position⟩

end Callback

/-- A poll writes queues and nothing else. -/
theorem OutputPoller.exists_channels (poller : OutputPoller) (isOpen : ChannelId → Bool)
    (outlets : Outlets) :
    ∃ channels, (poller.poll isOpen outlets).2.2 = { outlets with channels } := by
  obtain ⟨task, source⟩ := poller
  cases source <;> exact ⟨_, rfl⟩

namespace Service

/-- What holds of a callback and its session, however they are used. -/
structure Calls (graph : Graph) (callback : Callback) (past : List Sighting) (service : Service) :
    Prop where
  works : service.Works
  calls : service.Upholds (callback.IsCalled graph past)

variable {graph : Graph} {callback : Callback} {past : List Sighting} {service : Service}

theorem Calls.use (calls : service.Calls graph callback past)
    (coupled : service.session.Coupled) {use : Use} (next : (service.use use).session.Coupled) :
    (service.use use).Calls graph callback past := by
  have lasting := callback.lasting_isCalled graph past
  refine ⟨calls.works.use coupled next, ?_⟩
  cases use with
  | feed input => exact lasting.feed coupled calls.works calls.calls input
  | stop => exact lasting.stop coupled calls.calls
  | poll =>
      obtain ⟨listens, worker, brought⟩ := calls.calls
      obtain ⟨channels, same⟩ :=
        service.poller.exists_channels service.session.isOpen service.session.outlets
      have polled : callback.IsCalled graph past service.frames service.session.engine
          (service.poller.poll service.session.isOpen service.session.outlets).2.2 := by
        rw [same]
        exact ⟨listens, worker, brought⟩
      exact lasting.advance polled

end Service

end FrameFlow
