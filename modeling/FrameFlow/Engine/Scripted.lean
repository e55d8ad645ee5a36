import FrameFlow.Engine.Worker
import FrameFlow.Graph.Decoding

/-!
An engine that plays scripted graphs. A call is either carried out or refused, and a
refused call changes nothing. The worker of a run is run by `advance`; it outlives the run
until everything accepted is worked off, and its observers are released when it ends.
-/

namespace FrameFlow

inductive EngineRefusal where
  | loadWhileRunning
  | badGraph (violation : GraphViolation)
  | observeWhileRunning
  | notLoaded
  | unknownOutput (stream : String)
  | alreadyRunning
  | unknownInput (stream : String)
  | notRunning
  | inputClosed
  | notAfter (timestamp previous : Timestamp)
  | inputOpen
deriving DecidableEq

open Text in
def EngineRefusal.status : EngineRefusal → Status
  | .loadWhileRunning => ⟨.failedPrecondition, "cannot initialize while a run is in progress"⟩
  | .badGraph violation => violation.status
  | .observeWhileRunning =>
      ⟨.failedPrecondition, "observers must be attached before the run starts"⟩
  | .notLoaded => ⟨.failedPrecondition, "graph has not been initialized"⟩
  | .unknownOutput stream => ⟨.notFound, s!"graph has no output stream named {quoted stream}"⟩
  | .alreadyRunning => ⟨.failedPrecondition, "graph is already running"⟩
  | .unknownInput stream => ⟨.notFound, s!"graph has no input stream named {quoted stream}"⟩
  | .notRunning => ⟨.failedPrecondition, "graph is not running"⟩
  | .inputClosed => ⟨.failedPrecondition, "input stream is closed"⟩
  | .notAfter timestamp previous =>
      ⟨.invalidArgument, s!"timestamp {timestamp.text} is not after {previous.text}"⟩
  | .inputOpen => ⟨.failedPrecondition, "input stream must be closed before waiting"⟩

structure Run where
  inputOpen : Bool := true
  lastTimestamp : Option Timestamp := none
deriving DecidableEq

structure ScriptedEngine (η φ : Type) where
  graph : Option Graph := none
  observers : StreamMap η := .empty
  sink : Option φ := none
  run : Option Run := none
  worker : Option (Worker η φ) := none

instance : Inhabited (ScriptedEngine η φ) := ⟨{}⟩

namespace ScriptedEngine

variable {η φ ω : Type}

def isRunning (engine : ScriptedEngine η φ) : Bool := engine.run.isSome

def load (text : String) (engine : ScriptedEngine η φ) :
    Except EngineRefusal (ScriptedEngine η φ) :=
  if engine.isRunning then .error .loadWhileRunning
  else
    match Graph.parse text with
    | .error violation => .error (.badGraph violation)
    | .ok graph => .ok { engine with graph := some graph, observers := .empty }

def setSink (sink : φ) (engine : ScriptedEngine η φ) : ScriptedEngine η φ :=
  { engine with sink := some sink }

def hasInput (stream : String) (engine : ScriptedEngine η φ) : Bool :=
  match engine.graph with
  | some graph => graph.inputStream == stream
  | none => false

def observe (stream : String) (observer : η) (engine : ScriptedEngine η φ) :
    Except EngineRefusal (ScriptedEngine η φ) :=
  if engine.isRunning then .error .observeWhileRunning
  else
    match engine.graph with
    | none => .error .notLoaded
    | some graph =>
        if graph.isObservable stream then
          .ok { engine with observers := engine.observers.insert stream observer }
        else .error (.unknownOutput stream)

def start (engine : ScriptedEngine η φ) : Except EngineRefusal (ScriptedEngine η φ) :=
  if engine.isRunning then .error .alreadyRunning
  else
    match engine.graph with
    | none => .error .notLoaded
    | some graph =>
        .ok { engine with
          observers := .empty
          run := some {}
          worker := some { graph, observers := engine.observers, sink := engine.sink } }

def runOn (stream : String) (engine : ScriptedEngine η φ) : Except EngineRefusal Run :=
  match engine.graph with
  | none => .error .notLoaded
  | some graph =>
      if stream = graph.inputStream then
        match engine.run with
        | none => .error .notRunning
        | some run => .ok run
      else .error (.unknownInput stream)

def addPacket (stream : String) (input : StampedFrame) (engine : ScriptedEngine η φ) :
    Except EngineRefusal (ScriptedEngine η φ) :=
  match engine.runOn stream with
  | .error refusal => .error refusal
  | .ok run =>
      let accepted : ScriptedEngine η φ := { engine with
        run := some { run with lastTimestamp := some input.timestamp }
        worker := engine.worker.map fun worker =>
          { worker with waiting := worker.waiting ++ [input] } }
      if run.inputOpen then
        match run.lastTimestamp with
        | none => .ok accepted
        | some previous =>
            if input.timestamp ≤ previous then .error (.notAfter input.timestamp previous)
            else .ok accepted
      else .error .inputClosed

def closeInput (stream : String) (engine : ScriptedEngine η φ) :
    Except EngineRefusal (ScriptedEngine η φ) :=
  match engine.runOn stream with
  | .error refusal => .error refusal
  | .ok run => .ok { engine with run := some { run with inputOpen := false } }

def waitUntilDone (engine : ScriptedEngine η φ) : Except EngineRefusal (ScriptedEngine η φ) :=
  match engine.run with
  | none => .ok engine
  | some run => if run.inputOpen then .error .inputOpen else .ok { engine with run := none }

/-- Ends a run after the frame in work; frames not begun are dropped. -/
def cancel (engine : ScriptedEngine η φ) : ScriptedEngine η φ :=
  match engine.run with
  | none => engine
  | some _ =>
      { engine with
        run := none
        worker := engine.worker.map fun worker => { worker with waiting := [] } }

/-- Gives the engine up: a run ends after everything accepted. -/
def close (engine : ScriptedEngine η φ) : ScriptedEngine η φ :=
  { engine with graph := none, observers := .empty, sink := none, run := none }

def isInputOpen (engine : ScriptedEngine η φ) : Bool :=
  match engine.run with
  | some run => run.inputOpen
  | none => false

/-- Lets the worker go on as far as observers let it. A worker that has nothing to do and
nothing to wait for ends. -/
def advance (reaction : Reaction η φ ω) (engine : ScriptedEngine η φ) (world : ω) :
    ScriptedEngine η φ × ω :=
  match engine.worker with
  | none => (engine, world)
  | some worker =>
      let (worker, after) := worker.advance reaction world
      if worker.isIdle && !engine.isInputOpen then ({ engine with worker := none }, after)
      else ({ engine with worker := some worker }, after)

def remaining (engine : ScriptedEngine η φ) : Nat :=
  match engine.worker with
  | some worker => worker.remaining
  | none => 0

def heldObservers (engine : ScriptedEngine η φ) : List (String × η) :=
  engine.observers.entries ++
    match engine.worker with
    | some worker => worker.observers.entries
    | none => []

end ScriptedEngine

end FrameFlow
