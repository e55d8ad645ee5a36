import FrameFlow.Proofs.Engine.Emitting
import FrameFlow.Proofs.Session.Typing

/-!
What one emission does to the outlets of a session, apart from queues and preview places: it
is counted if its stream is bound, listeners are told of it, and it may be a fault, or become
one where its binding cannot use it.
-/

namespace FrameFlow

/-- The answer of a binding to a packet that it cannot use. -/
def Binding.refusal? (binding : Binding) (stream : String) (payload : Payload) : Option Status :=
  match binding with
  | .output task _ _ =>
      match task.decode stream payload with
      | .ok _ => none
      | .error error => some ⟨.invalidArgument, error.message⟩
  | .preview _ | .latest _ =>
      match payload with
      | .image _ => none
      | other => some (Outlets.notAnImage stream other)
  | .packets _ | .poller _ => none

/-- What an emission comes to for given bindings. -/
structure Entry where
  counted : Option (String × BindingMode) := none
  told : List Event := []
  fault : Option Fault := none

def Emission.entry (bindings : StreamMap Binding) : Emission → Entry
  | .fault reported => { fault := some reported }
  | .packet stream content =>
      match bindings.find? stream with
      | none => {}
      | some binding =>
          { counted := some (stream, binding.mode)
            told := Outlets.told stream content binding
            fault := (binding.refusal? stream content.payload).map fun status =>
              ⟨some stream, some content.timestamp, status⟩ }

theorem Emission.entry_congr {bindings others : StreamMap Binding}
    (alike : ∀ stream, others.find? stream = bindings.find? stream) (emission : Emission) :
    emission.entry others = emission.entry bindings := by
  cases emission with
  | fault fault => rfl
  | packet stream packet => rw [entry, entry, alike]

/-- Who is told of a fault. -/
def Fault.told (fault : Fault) (listener : Option Listener) : List Event :=
  match listener with
  | some listener => [.failure listener (.engineRuntime fault)]
  | none => []

/-- All that listeners are told of an emission. -/
def Entry.events (entry : Entry) (listener : Option Listener) : List Event :=
  entry.told ++ entry.fault.toList.flatMap (·.told listener)

/-- The counters of a session, and what its listeners were told. -/
structure Books where
  fed : Nat
  rejected : Tally String
  dispatched : Tally (String × BindingMode)
  errors : Nat
  listener : Option Listener
  events : List Event

def Outlets.books (outlets : Outlets) : Books where
  fed := outlets.metrics.framesFed
  rejected := outlets.metrics.framesRejected
  dispatched := outlets.metrics.packetsDispatched
  errors := outlets.metrics.runtimeErrors
  listener := outlets.errorListener
  events := outlets.events

namespace Books

variable (books : Books) (entry : Entry) (entries : List Entry)

def enter : Books where
  fed := books.fed
  rejected := books.rejected
  dispatched := entry.counted.toList.foldl Tally.bump books.dispatched
  errors := books.errors + entry.fault.toList.length
  listener := books.listener
  events := books.events ++ entry.events books.listener

def enterAll : Books := entries.foldl enter books

@[simp] theorem enterAll_fed : (books.enterAll entries).fed = books.fed := by
  induction entries generalizing books with
  | nil => rfl
  | cons entry rest ih => exact ih (books.enter entry)

@[simp] theorem enterAll_rejected : (books.enterAll entries).rejected = books.rejected := by
  induction entries generalizing books with
  | nil => rfl
  | cons entry rest ih => exact ih (books.enter entry)

@[simp] theorem enterAll_listener : (books.enterAll entries).listener = books.listener := by
  induction entries generalizing books with
  | nil => rfl
  | cons entry rest ih => exact ih (books.enter entry)

@[simp] theorem enterAll_events :
    (books.enterAll entries).events =
      books.events ++ entries.flatMap (·.events books.listener) := by
  induction entries generalizing books with
  | nil => exact (List.append_nil _).symm
  | cons entry rest ih =>
      rw [enterAll, List.foldl_cons, ← enterAll, ih, enter, List.flatMap_cons, List.append_assoc]

@[simp] theorem enterAll_errors :
    (books.enterAll entries).errors =
      books.errors + (entries.filterMap (·.fault)).length := by
  induction entries generalizing books with
  | nil => rfl
  | cons entry rest ih =>
      rw [enterAll, List.foldl_cons, ← enterAll, ih, enter, List.filterMap_cons]
      cases entry.fault with
      | none => simp
      | some fault =>
          simp
          omega

@[simp] theorem count_enterAll (key : String × BindingMode) :
    (books.enterAll entries).dispatched.count key =
      books.dispatched.count key + entries.countP (·.counted == some key) := by
  induction entries generalizing books with
  | nil => rfl
  | cons entry rest ih =>
      rw [enterAll, List.foldl_cons, ← enterAll, ih, enter, List.countP_cons]
      cases entry.counted with
      | none => simp
      | some other =>
          by_cases same : key = other
          · simp [same]
            omega
          · simp [same, Ne.symm same]

end Books

namespace Outlets

variable {outlets after : Outlets} {stream : String} {binding : Binding} {packet : Packet}
  {answer : Except Status Unit}

theorem books_report (outlets : Outlets) (fault : Fault) :
    (outlets.report fault).books = outlets.books.enter { fault := some fault } := by
  cases listens : outlets.errorListener <;>
    simp [report, listens, books, Books.enter, Entry.events, Fault.told, tell]

theorem answer_of_deliver
    (delivered : deliver stream binding packet outlets = some (answer, after)) :
    answer = match binding.refusal? stream packet.payload with
      | some status => .error status
      | none => .ok () := by
  simp only [deliver] at delivered
  cases binding with
  | output task slot listener =>
      rw [handle] at delivered
      simp only [Binding.refusal?]
      cases decoded : task.decode stream packet.payload <;> rw [decoded] at delivered <;>
        cases delivered <;> rfl
  | packets listener =>
      cases delivered
      rfl
  | preview listener | latest place =>
      rw [handle] at delivered
      unfold Binding.refusal?
      cases content : packet.payload <;> rw [content] at delivered <;> cases delivered <;> rfl
  | poller channel =>
      obtain ⟨sent, _, same⟩ := Option.map_eq_some_iff.mp delivered
      cases same
      rfl

theorem metrics_of_deliver
    (delivered : deliver stream binding packet outlets = some (answer, after)) :
    ∃ depth, after.metrics = { (outlets.countDispatched stream binding.mode).metrics with
      pollerDepth := depth } := by
  simp only [deliver] at delivered
  cases binding with
  | output task slot listener =>
      rw [handle] at delivered
      cases decoded : task.decode stream packet.payload <;> rw [decoded] at delivered <;>
        cases delivered <;> exact ⟨_, rfl⟩
  | packets listener =>
      cases delivered
      exact ⟨_, rfl⟩
  | preview listener | latest place =>
      rw [handle] at delivered
      cases content : packet.payload <;> rw [content] at delivered <;> cases delivered <;>
        exact ⟨_, rfl⟩
  | poller channel =>
      obtain ⟨sent, accepted, same⟩ := Option.map_eq_some_iff.mp delivered
      cases same
      rw [send] at accepted
      split at accepted
      · cases accepted
        exact ⟨_, rfl⟩
      · obtain ⟨queue, _, rfl⟩ := Option.map_eq_some_iff.mp accepted
        exact ⟨_, rfl⟩

theorem books_of_deliver
    (delivered : deliver stream binding packet outlets = some (answer, after)) :
    after.books = outlets.books.enter
      { counted := some (stream, binding.mode), told := told stream packet binding } := by
  obtain ⟨events, listener⟩ := events_of_deliver delivered
  obtain ⟨depth, metrics⟩ := metrics_of_deliver delivered
  simp [books, Books.enter, Entry.events, events, listener, metrics, countDispatched]

/-- An emission that takes effect is entered in the books. -/
theorem books_of_emit {observers : StreamMap Binding} {emission : Emission}
    (emitted : SessionEngine.reaction.emit observers (some ()) emission outlets = some after) :
    after.books = outlets.books.enter (emission.entry observers) := by
  cases emission with
  | fault fault =>
      cases emitted
      exact outlets.books_report fault
  | packet stream packet =>
      rw [Emission.entry]
      cases found : observers.find? stream with
      | none =>
          simp only [Reaction.emit, found, Option.some.injEq] at emitted
          simp [← emitted, Books.enter, Entry.events]
      | some binding =>
          simp only [Reaction.emit, found, Option.map_eq_some_iff] at emitted
          obtain ⟨⟨answer, middle⟩, delivered, same⟩ := emitted
          have entered := books_of_deliver delivered
          have answered := answer_of_deliver delivered
          cases refused : binding.refusal? stream packet.payload with
          | none =>
              rw [refused] at answered
              subst answered
              obtain rfl : middle = after := same
              simpa [refused] using entered
          | some status =>
              rw [refused] at answered
              subst answered
              obtain rfl :
                middle.report ⟨some stream, some packet.timestamp, status⟩ = after := same
              rw [books_report, entered]
              simp [refused, Books.enter, Entry.events]

theorem books_of_emits {observers : StreamMap Binding} {emissions : List Emission}
    (emits : SessionEngine.reaction.Emits observers (some ()) emissions outlets after) :
    after.books = outlets.books.enterAll (emissions.map (·.entry observers)) := by
  have entered := (emits.foldl_eq (fun _ => True) Outlets.books
    (fun books emission => books.enter (emission.entry observers)) trivial
    fun _ emitted => ⟨trivial, books_of_emit emitted⟩).2
  rw [entered, Books.enterAll, List.foldl_map]

/-- Listeners are told of emissions in order. -/
theorem events_of_emits {observers : StreamMap Binding} {emissions : List Emission}
    (emits : SessionEngine.reaction.Emits observers (some ()) emissions outlets after) :
    after.errorListener = outlets.errorListener ∧
      after.events = outlets.events ++ emissions.flatMap fun emission =>
        (emission.entry observers).events outlets.errorListener := by
  have entered := books_of_emits emits
  have listener := congrArg Books.listener entered
  have events := congrArg Books.events entered
  rw [Books.enterAll_listener] at listener
  rw [Books.enterAll_events, List.flatMap_map] at events
  exact ⟨listener, events⟩

end Outlets

/-- An engine that is run on has entered the first emissions that it owed. -/
theorem SessionEngine.exists_entered {engine : SessionEngine} {worker : Worker Binding Unit}
    (found : engine.worker = some worker) (reports : worker.sink = some ()) (outlets : Outlets) :
    let worked := engine.advance SessionEngine.reaction outlets
    ∃ done, engine.owed = done ++ worked.1.owed ∧
      worked.2.books = outlets.books.enterAll (done.map (·.entry worker.observers)) ∧
      ∀ left, worked.1.worker = some left → worker.Continues left := by
  intro worked
  obtain ⟨done, owed, emits, continues⟩ :=
    ScriptedEngine.exists_emits SessionEngine.reaction found outlets
  rw [reports] at emits
  exact ⟨done, owed, Outlets.books_of_emits emits, continues⟩

end FrameFlow
