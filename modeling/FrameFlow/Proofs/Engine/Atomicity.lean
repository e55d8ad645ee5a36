import FrameFlow.Proofs.Engine.Calls

/-!
Calls that change an engine in place. Some of them take out a part of it before they know
whether they succeed, and a refusal does not bring back what was taken; still every call is
carried out as a whole or not at all, and it is carried out exactly if it is allowed.
-/

namespace FrameFlow

/-- Changes of an engine, one after the other. A refusal leaves the engine as it then is. -/
abbrev Stepping (η φ : Type) := EStateM EngineRefusal (ScriptedEngine η φ)

namespace Stepping

variable {η φ : Type}

def loadedGraph : Stepping η φ Graph := do
  match (← get).graph with
  | some graph => return graph
  | none => throw .notLoaded

/-- The run that takes frames on a stream. -/
def runOn (stream : String) : Stepping η φ Run := do
  let graph ← loadedGraph
  unless stream = graph.inputStream do throw (.unknownInput stream)
  match (← get).run with
  | some run => return run
  | none => throw .notRunning

/-- The observers that are attached; none of them are afterwards. -/
def takeObservers : Stepping η φ (StreamMap η) :=
  modifyGet fun engine => (engine.observers, { engine with observers := .empty })

/-- The run in progress; there is none afterwards. -/
def takeRun : Stepping η φ (Option Run) :=
  modifyGet fun engine => (engine.run, { engine with run := none })

def putRun (run : Run) : Stepping η φ Unit :=
  modify fun engine => { engine with run := some run }

def load (text : String) : Stepping η φ Unit := do
  if (← get).isRunning then throw .loadWhileRunning
  match Graph.parse text with
  | .error violation => throw (.badGraph violation)
  | .ok graph =>
      modify fun engine => { engine with graph := some graph }
      modify fun engine => { engine with observers := .empty }

def observe (stream : String) (observer : η) : Stepping η φ Unit := do
  if (← get).isRunning then throw .observeWhileRunning
  let graph ← loadedGraph
  unless graph.isObservable stream do throw (.unknownOutput stream)
  modify fun engine => { engine with observers := engine.observers.insert stream observer }

def start : Stepping η φ Unit := do
  if (← get).isRunning then throw .alreadyRunning
  let graph ← loadedGraph
  let observers ← takeObservers
  let sink := (← get).sink
  modify fun engine => { engine with worker := some { graph, observers, sink } }
  putRun {}

def addPacket (stream : String) (input : StampedFrame) : Stepping η φ Unit := do
  let run ← runOn stream
  unless run.inputOpen do throw .inputClosed
  if let some previous := run.lastTimestamp then
    if input.timestamp ≤ previous then throw (.notAfter input.timestamp previous)
  modify fun engine => { engine with worker := engine.worker.map (·.enqueue input) }
  putRun (run.accept input.timestamp)

def closeInput (stream : String) : Stepping η φ Unit := do
  let run ← runOn stream
  putRun { run with inputOpen := false }

def waitUntilDone : Stepping η φ Unit := do
  if let some run ← takeRun then
    if run.inputOpen then
      putRun run
      throw .inputOpen

def cancel : Stepping η φ Unit := do
  if let some _ ← takeRun then
    modify fun engine => { engine with
      worker := engine.worker.map fun worker => { worker with waiting := [] } }

def carryOut : Call η → Stepping η φ Unit
  | .load text => load text
  | .observe stream observer => observe stream observer
  | .start => start
  | .addPacket stream input => addPacket stream input
  | .closeInput stream => closeInput stream
  | .waitUntilDone => waitUntilDone
  | .cancel => cancel

/-- What comes of a call that rolls back: an engine as it is to be, or a refusal and the engine
as it was. -/
def settled (engine : ScriptedEngine η φ) :
    Except EngineRefusal (ScriptedEngine η φ) →
      EStateM.Result EngineRefusal (ScriptedEngine η φ) Unit
  | .ok after => .ok () after
  | .error refusal => .error refusal engine

variable {engine after : ScriptedEngine η φ}

theorem settled_eq_ok_iff {result : Except EngineRefusal (ScriptedEngine η φ)} :
    settled engine result = .ok () after ↔ result = .ok after := by
  cases result <;> simp [settled]

theorem eq_of_settled_eq_error {result : Except EngineRefusal (ScriptedEngine η φ)}
    {refusal : EngineRefusal} (refused : settled engine result = .error refusal after) :
    after = engine := by
  cases result with
  | ok other => contradiction
  | error _ =>
      cases refused
      rfl

theorem run_throw {α : Type} (refusal : EngineRefusal) :
    (throw refusal : Stepping η φ α).run engine = .error refusal engine := rfl

theorem run_loadedGraph :
    (loadedGraph : Stepping η φ Graph).run engine =
      match engine.graph with
      | none => .error .notLoaded engine
      | some graph => .ok graph engine := by
  cases loaded : engine.graph <;> simp [loadedGraph, loaded, run_throw]

theorem run_load (text : String) : (load text).run engine = settled engine (engine.load text) := by
  cases running : engine.isRunning with
  | true => simp [load, ScriptedEngine.load, running, settled]
  | false =>
      cases parsed : Graph.parse text with
      | error violation => simp [load, ScriptedEngine.load, running, parsed, settled]
      | ok graph => simp [load, ScriptedEngine.load, running, parsed, settled]

theorem run_observe (stream : String) (observer : η) :
    (observe stream observer).run engine = settled engine (engine.observe stream observer) := by
  cases running : engine.isRunning with
  | true => simp [observe, ScriptedEngine.observe, running, settled]
  | false =>
      cases loaded : engine.graph with
      | none => simp [observe, ScriptedEngine.observe, running, loaded, run_loadedGraph, settled]
      | some graph =>
          by_cases observable : graph.isObservable stream = true <;>
            simp [observe, ScriptedEngine.observe, running, loaded, run_loadedGraph, observable,
              settled]

theorem run_start : (start : Stepping η φ Unit).run engine = settled engine engine.start := by
  cases running : engine.isRunning with
  | true => simp [start, ScriptedEngine.start, running, settled]
  | false =>
      cases loaded : engine.graph with
      | none => simp [start, ScriptedEngine.start, running, loaded, run_loadedGraph, settled]
      | some graph =>
          simp [start, ScriptedEngine.start, running, loaded, run_loadedGraph, takeObservers,
            putRun, settled]

theorem run_runOn (stream : String) :
    (runOn stream : Stepping η φ Run).run engine =
      match engine.runOn stream with
      | .error refusal => .error refusal engine
      | .ok run => .ok run engine := by
  cases loaded : engine.graph with
  | none => simp [runOn, run_loadedGraph, loaded, ScriptedEngine.runOn]
  | some graph =>
      by_cases named : stream = graph.inputStream
      · cases running : engine.run <;>
          simp [runOn, run_loadedGraph, loaded, ScriptedEngine.runOn, named, running, run_throw]
      · simp [runOn, run_loadedGraph, loaded, ScriptedEngine.runOn, named]

theorem run_addPacket (stream : String) (input : StampedFrame) :
    (addPacket stream input).run engine = settled engine (engine.addPacket stream input) := by
  cases found : engine.runOn stream with
  | error refusal => simp [addPacket, run_runOn, found, ScriptedEngine.addPacket, settled]
  | ok run =>
      cases opened : run.inputOpen with
      | false => simp [addPacket, run_runOn, found, ScriptedEngine.addPacket, opened, settled]
      | true =>
          cases last : run.lastTimestamp with
          | none =>
              simp [addPacket, run_runOn, found, ScriptedEngine.addPacket, opened, last, putRun,
                Run.accept, Worker.enqueue, settled]
          | some previous =>
              by_cases late : input.timestamp ≤ previous <;>
                simp [addPacket, run_runOn, found, ScriptedEngine.addPacket, opened, last, late,
                  putRun, Run.accept, Worker.enqueue, settled]

theorem run_closeInput (stream : String) :
    (closeInput stream).run engine = settled engine (engine.closeInput stream) := by
  cases found : engine.runOn stream <;>
    simp [closeInput, run_runOn, found, ScriptedEngine.closeInput, putRun, settled]

theorem withRun_self {run : Option Run} (taken : engine.run = run) :
    { engine with run } = engine := by
  rw [← taken]

/-- The run that was taken is put back as it was. -/
theorem run_waitUntilDone :
    (waitUntilDone : Stepping η φ Unit).run engine = settled engine engine.waitUntilDone := by
  cases running : engine.run with
  | none =>
      simp [waitUntilDone, takeRun, running, ScriptedEngine.waitUntilDone, settled,
        withRun_self running]
  | some run =>
      cases opened : run.inputOpen with
      | true =>
          simp [waitUntilDone, takeRun, putRun, running, opened, ScriptedEngine.waitUntilDone,
            settled, withRun_self running]
      | false =>
          simp [waitUntilDone, takeRun, running, opened, ScriptedEngine.waitUntilDone, settled]

theorem run_cancel : (cancel : Stepping η φ Unit).run engine = .ok () engine.cancel := by
  cases running : engine.run with
  | none => simp [cancel, takeRun, running, ScriptedEngine.cancel, withRun_self running]
  | some run => simp [cancel, takeRun, running, ScriptedEngine.cancel]

/-- Step by step, a call comes to what it comes to as a whole. -/
theorem run_carryOut (call : Call η) :
    (carryOut call).run engine = settled engine (engine.perform call) := by
  cases call with
  | load text => exact run_load text
  | observe stream observer => exact run_observe stream observer
  | start => exact run_start
  | addPacket stream input => exact run_addPacket stream input
  | closeInput stream => exact run_closeInput stream
  | waitUntilDone => exact run_waitUntilDone
  | cancel => exact run_cancel

end Stepping

/-- What the frames accepted by a run become with a call that is carried out. -/
def Call.noted {η : Type} (accepted : List StampedFrame) : Call η → List StampedFrame
  | .start => []
  | .addPacket _ input => accepted ++ [input]
  | _ => accepted

/-- An engine in use, and the frames that were accepted since a run was last started. -/
structure Rig (η φ : Type) where
  engine : ScriptedEngine η φ := {}
  accepted : List StampedFrame := []

namespace Rig

variable {η φ ω : Type} {rig : Rig η φ} {reaction : Reaction η φ ω}

inductive Move (η φ ω : Type) where
  | call (call : Call η)
  | setSink (sink : φ)
  | work (world : ω)

def ask (rig : Rig η φ) (call : Call η) : EStateM.Result EngineRefusal (ScriptedEngine η φ) Unit :=
  (Stepping.carryOut call).run rig.engine

def call (rig : Rig η φ) (call : Call η) : Rig η φ :=
  match rig.ask call with
  | .ok () engine => ⟨engine, call.noted rig.accepted⟩
  | .error _ engine => { rig with engine }

/-- The worker may be run between any two calls, in whatever world it then finds. -/
def move (reaction : Reaction η φ ω) (rig : Rig η φ) : Move η φ ω → Rig η φ
  | .call call => rig.call call
  | .setSink sink => { rig with engine := rig.engine.setSink sink }
  | .work world => { rig with engine := (rig.engine.advance reaction world).1 }

def after (reaction : Reaction η φ ω) (rig : Rig η φ) (moves : List (Move η φ ω)) : Rig η φ :=
  moves.foldl (move reaction) rig

/-- When a call is carried out. -/
def Allows (rig : Rig η φ) : Call η → Prop
  | .load text => rig.engine.run = none ∧ ∃ graph, Graph.parse text = .ok graph
  | .observe stream _ =>
      rig.engine.run = none ∧ ∃ graph, rig.engine.graph = some graph ∧
        (graph.outputStreams.contains stream = true ∨ graph.previewStream = some stream)
  | .start => (∃ graph, rig.engine.graph = some graph) ∧ rig.engine.run = none
  | .addPacket stream input =>
      ∃ graph run, rig.engine.graph = some graph ∧ stream = graph.inputStream ∧
        rig.engine.run = some run ∧ run.inputOpen = true ∧
        ∀ last, rig.accepted.getLast? = some last → last.timestamp < input.timestamp
  | .closeInput stream =>
      ∃ graph run, rig.engine.graph = some graph ∧ stream = graph.inputStream ∧
        rig.engine.run = some run
  | .waitUntilDone => ∀ run, rig.engine.run = some run → run.inputOpen = false
  | .cancel => True

end Rig

namespace ScriptedEngine

variable {η φ : Type}

/-- What an engine is after a call that was carried out. -/
def Becomes (engine : ScriptedEngine η φ) : Call η → ScriptedEngine η φ → Prop
  | .load text, after =>
      ∃ graph, Graph.parse text = .ok graph ∧
        after = { engine with graph := some graph, observers := .empty }
  | .observe stream observer, after =>
      after = { engine with observers := engine.observers.insert stream observer }
  | .start, after =>
      ∃ graph, engine.graph = some graph ∧
        after = { engine with
          observers := .empty
          run := some { inputOpen := true, lastTimestamp := none }
          worker := some { graph, observers := engine.observers, sink := engine.sink } }
  | .addPacket _ input, after =>
      ∃ run worker, engine.run = some run ∧ engine.worker = some worker ∧
        after = { engine with
          run := some { run with lastTimestamp := some input.timestamp }
          worker := some { worker with waiting := worker.waiting ++ [input] } }
  | .closeInput _, after =>
      ∃ run, engine.run = some run ∧
        after = { engine with run := some { run with inputOpen := false } }
  | .waitUntilDone, after => after = { engine with run := none }
  | .cancel, after =>
      (engine.run = none → after = engine) ∧
        (engine.run.isSome = true → after = { engine with
          run := none
          worker := engine.worker.map fun worker => { worker with waiting := [] } })

end ScriptedEngine

namespace Rig

variable {η φ ω : Type} {rig : Rig η φ} {reaction : Reaction η φ ω}
variable {engine : ScriptedEngine η φ}

/-- The last timestamp of a run is that of the last frame it accepted, and a run that takes
frames has a worker to take them. -/
structure IsSound (rig : Rig η φ) : Prop where
  stamped : ∀ run, rig.engine.run = some run →
    run.lastTimestamp = rig.accepted.getLast?.map (·.timestamp)
  staffed : ∀ run, rig.engine.run = some run → run.inputOpen = true →
    ∃ worker, rig.engine.worker = some worker

theorem IsSound.precedes_iff (sound : rig.IsSound) {run : Run} (running : rig.engine.run = some run)
    {timestamp : Timestamp} :
    run.Precedes timestamp ↔
      ∀ last, rig.accepted.getLast? = some last → last.timestamp < timestamp := by
  simp only [Run.Precedes, sound.stamped run running, Option.map_eq_some_iff]
  constructor
  · intro precedes last found
    exact precedes _ ⟨last, found, rfl⟩
  · rintro below _ ⟨last, found, rfl⟩
    exact below last found

theorem isObservable_iff {graph : Graph} {stream : String} :
    graph.isObservable stream = true ↔
      graph.outputStreams.contains stream = true ∨ graph.previewStream = some stream := by
  rw [Graph.isObservable, Bool.or_eq_true, beq_iff_eq]

/-- A call is carried out exactly if it is allowed, and then with its own effect only. -/
theorem IsSound.perform_eq_ok_iff (sound : rig.IsSound) {call : Call η} :
    rig.engine.perform call = .ok engine ↔ rig.Allows call ∧ rig.engine.Becomes call engine := by
  cases call with
  | load text =>
      refine ScriptedEngine.load_eq_ok_iff.trans ?_
      constructor
      · rintro ⟨idle, graph, parsed, rfl⟩
        exact ⟨⟨idle, graph, parsed⟩, graph, parsed, rfl⟩
      · rintro ⟨⟨idle, _⟩, graph, parsed, rfl⟩
        exact ⟨idle, graph, parsed, rfl⟩
  | observe stream observer =>
      refine ScriptedEngine.observe_eq_ok_iff.trans ?_
      constructor
      · rintro ⟨idle, graph, loaded, observable, rfl⟩
        exact ⟨⟨idle, graph, loaded, isObservable_iff.mp observable⟩, rfl⟩
      · rintro ⟨⟨idle, graph, loaded, observable⟩, rfl⟩
        exact ⟨idle, graph, loaded, isObservable_iff.mpr observable, rfl⟩
  | start =>
      refine ScriptedEngine.start_eq_ok_iff.trans ?_
      constructor
      · rintro ⟨idle, graph, loaded, rfl⟩
        exact ⟨⟨⟨graph, loaded⟩, idle⟩, graph, loaded, rfl⟩
      · rintro ⟨⟨_, idle⟩, graph, loaded, rfl⟩
        exact ⟨idle, graph, loaded, rfl⟩
  | addPacket stream input =>
      refine ScriptedEngine.addPacket_eq_ok_iff.trans ?_
      constructor
      · rintro ⟨run, found, opened, next, rfl⟩
        obtain ⟨graph, loaded, named, running⟩ := ScriptedEngine.runOn_eq_ok_iff.mp found
        obtain ⟨worker, staffed⟩ := sound.staffed run running opened
        refine ⟨⟨graph, run, loaded, named, running, opened, (sound.precedes_iff running).mp next⟩,
          run, worker, running, staffed, ?_⟩
        simp only [ScriptedEngine.accept, Run.accept, staffed, Option.map_some, Worker.enqueue]
      · rintro ⟨⟨graph, run, loaded, named, running, opened, next⟩, other, worker, also, staffed,
          rfl⟩
        obtain rfl : run = other := Option.some.inj (running.symm.trans also)
        refine ⟨run, ScriptedEngine.runOn_eq_ok_iff.mpr ⟨graph, loaded, named, running⟩, opened,
          (sound.precedes_iff running).mpr next, ?_⟩
        simp only [ScriptedEngine.accept, Run.accept, staffed, Option.map_some, Worker.enqueue]
  | closeInput stream =>
      refine ScriptedEngine.closeInput_eq_ok_iff.trans ?_
      simp only [ScriptedEngine.runOn_eq_ok_iff]
      constructor
      · rintro ⟨run, ⟨graph, loaded, named, running⟩, rfl⟩
        exact ⟨⟨graph, run, loaded, named, running⟩, run, running, rfl⟩
      · rintro ⟨⟨graph, _, loaded, named, _⟩, run, running, rfl⟩
        exact ⟨run, ⟨graph, loaded, named, running⟩, rfl⟩
  | waitUntilDone => exact ScriptedEngine.waitUntilDone_eq_ok_iff
  | cancel =>
      cases running : rig.engine.run <;>
        simp [ScriptedEngine.perform, ScriptedEngine.cancel, Allows, ScriptedEngine.Becomes,
          running, eq_comm]

theorem IsSound.exists_becomes (sound : rig.IsSound) {call : Call η} (allowed : rig.Allows call) :
    ∃ engine, rig.engine.Becomes call engine := by
  cases call with
  | load text =>
      obtain ⟨_, graph, parsed⟩ := allowed
      exact ⟨_, graph, parsed, rfl⟩
  | observe stream observer => exact ⟨_, rfl⟩
  | start =>
      obtain ⟨⟨graph, loaded⟩, _⟩ := allowed
      exact ⟨_, graph, loaded, rfl⟩
  | addPacket stream input =>
      obtain ⟨_, run, _, _, running, opened, _⟩ := allowed
      obtain ⟨worker, staffed⟩ := sound.staffed run running opened
      exact ⟨_, run, worker, running, staffed, rfl⟩
  | closeInput stream =>
      obtain ⟨_, run, _, _, running⟩ := allowed
      exact ⟨_, run, running, rfl⟩
  | waitUntilDone => exact ⟨_, rfl⟩
  | cancel =>
      cases running : rig.engine.run with
      | none => exact ⟨rig.engine, by simp [ScriptedEngine.Becomes, running]⟩
      | some run => exact ⟨_, by simp [running], fun _ => rfl⟩

theorem sound_fresh : IsSound ({} : Rig η φ) :=
  ⟨fun _ running => (nomatch running), fun _ running => (nomatch running)⟩

theorem IsSound.becomes (sound : rig.IsSound) {call : Call η}
    (becomes : rig.engine.Becomes call engine) :
    IsSound ⟨engine, call.noted rig.accepted⟩ := by
  cases call with
  | load text =>
      obtain ⟨graph, _, rfl⟩ := becomes
      exact ⟨sound.stamped, sound.staffed⟩
  | observe stream observer =>
      obtain rfl := becomes
      exact ⟨sound.stamped, sound.staffed⟩
  | start =>
      obtain ⟨graph, _, rfl⟩ := becomes
      refine ⟨fun run running => ?_, fun run running _ => ⟨_, rfl⟩⟩
      obtain rfl := Option.some.inj running
      rfl
  | addPacket stream input =>
      obtain ⟨run, worker, _, _, rfl⟩ := becomes
      refine ⟨fun other running => ?_, fun _ _ _ => ⟨_, rfl⟩⟩
      obtain rfl := Option.some.inj running
      simp [Call.noted]
  | closeInput stream =>
      obtain ⟨run, running, rfl⟩ := becomes
      refine ⟨fun other also => ?_, fun other also opened => ?_⟩
      · obtain rfl := Option.some.inj also
        exact sound.stamped run running
      · obtain rfl := Option.some.inj also
        contradiction
  | waitUntilDone =>
      obtain rfl := becomes
      exact ⟨fun _ running => (nomatch running), fun _ running => (nomatch running)⟩
  | cancel =>
      obtain ⟨resting, ending⟩ := becomes
      cases running : rig.engine.run with
      | none =>
          obtain rfl := resting running
          exact ⟨sound.stamped, sound.staffed⟩
      | some run =>
          obtain rfl := ending (by rw [running, Option.isSome_some])
          exact ⟨fun _ running => (nomatch running), fun _ running => (nomatch running)⟩

theorem IsSound.call (sound : rig.IsSound) (call : Call η) : (rig.call call).IsSound := by
  rw [Rig.call, ask, Stepping.run_carryOut]
  cases performed : rig.engine.perform call with
  | error refusal => exact sound
  | ok engine => exact sound.becomes (sound.perform_eq_ok_iff.mp performed).2

theorem IsSound.work (sound : rig.IsSound) (world : ω) :
    IsSound { rig with engine := (rig.engine.advance reaction world).1 } := by
  refine ⟨fun run running => ?_, fun run running opened => ?_⟩
  · exact sound.stamped run ((ScriptedEngine.advance_run ..).symm.trans running)
  · have before := (ScriptedEngine.advance_run reaction rig.engine world).symm.trans running
    obtain ⟨worker, staffed⟩ := sound.staffed run before opened
    have takes : rig.engine.isInputOpen = true := by
      rw [ScriptedEngine.isInputOpen, before]
      exact opened
    simp [ScriptedEngine.advance, staffed, takes]

theorem IsSound.after (sound : rig.IsSound) (moves : List (Move η φ ω)) :
    (rig.after reaction moves).IsSound := by
  induction moves generalizing rig with
  | nil => exact sound
  | cons move rest ih =>
      apply ih
      cases move with
      | call call => exact sound.call call
      | setSink sink => exact ⟨sound.stamped, sound.staffed⟩
      | work world => exact sound.work world

theorem ask_eq_ok_iff {call : Call η} :
    rig.ask call = .ok () engine ↔ rig.engine.perform call = .ok engine := by
  rw [ask, Stepping.run_carryOut, Stepping.settled_eq_ok_iff]

/-- Closing an input that is closed changes nothing. -/
theorem ask_closeInput_again {stream : String}
    (closed : rig.ask (.closeInput stream) = .ok () engine) :
    Rig.ask ⟨engine, rig.accepted⟩ (.closeInput stream) = .ok () engine := by
  obtain ⟨run, found, rfl⟩ := ScriptedEngine.closeInput_eq_ok_iff.mp (ask_eq_ok_iff.mp closed)
  obtain ⟨graph, loaded, named, _⟩ := ScriptedEngine.runOn_eq_ok_iff.mp found
  refine ask_eq_ok_iff.mpr (ScriptedEngine.closeInput_eq_ok_iff.mpr ?_)
  exact ⟨{ run with inputOpen := false },
    ScriptedEngine.runOn_eq_ok_iff.mpr ⟨graph, loaded, named, rfl⟩, rfl⟩

/-- In whatever state an engine has got to, by calls that were carried out or refused and with
its worker run at any times in between: a call is carried out exactly if it is allowed, and then
changes what it is for and nothing else; a refused call changes nothing. -/
theorem ask_after (reaction : Reaction η φ ω) (moves : List (Move η φ ω)) (call : Call η) :
    let rig := ({} : Rig η φ).after reaction moves
    ((∃ engine, rig.ask call = .ok () engine) ↔ rig.Allows call) ∧
      (∀ engine, rig.ask call = .ok () engine → rig.engine.Becomes call engine) ∧
      (∀ refusal engine, rig.ask call = .error refusal engine → engine = rig.engine) ∧
      (∀ stream engine, rig.ask (.closeInput stream) = .ok () engine →
        Rig.ask ⟨engine, rig.accepted⟩ (.closeInput stream) = .ok () engine) ∧
      rig.ask call = Stepping.settled rig.engine (rig.engine.perform call) := by
  intro rig
  have sound : rig.IsSound := sound_fresh.after moves
  have whole : rig.ask call = Stepping.settled rig.engine (rig.engine.perform call) :=
    Stepping.run_carryOut call
  have carried : ∀ engine, rig.ask call = .ok () engine ↔
      rig.Allows call ∧ rig.engine.Becomes call engine :=
    fun engine => ask_eq_ok_iff.trans sound.perform_eq_ok_iff
  refine ⟨⟨?_, ?_⟩, fun engine done => ((carried engine).mp done).2, ?_,
    fun _ _ => ask_closeInput_again, whole⟩
  · rintro ⟨engine, done⟩
    exact ((carried engine).mp done).1
  · intro allowed
    obtain ⟨engine, becomes⟩ := sound.exists_becomes allowed
    exact ⟨engine, (carried engine).mpr ⟨allowed, becomes⟩⟩
  · intro refusal engine refused
    exact Stepping.eq_of_settled_eq_error (whole.symm.trans refused)

end Rig

end FrameFlow
