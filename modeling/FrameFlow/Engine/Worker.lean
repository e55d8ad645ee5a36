import FrameFlow.Graph.Basic

/-!
The worker of a run: it takes accepted frames in order and hands what the graph emits for
them to observers, one emission at a time. An observer may have to wait; then the worker
waits with it, and goes on from there when it is run again. So a run may be cut anywhere
without a change to what it delivers.
-/

namespace FrameFlow

/-- How observers `η` and fault sinks `φ` act on the world `ω` outside the engine. -/
structure Reaction (η φ ω : Type) where
  /-- Gives an observer a packet of a stream; none if the observer has to wait. An error of
  the observer does not stop the run. -/
  deliver : String → η → Packet → ω → Option (Except Status Unit × ω)
  report : φ → Fault → ω → ω

namespace Reaction

variable {η φ ω : Type}

def reportTo (reaction : Reaction η φ ω) (sink : Option φ) (fault : Fault) (world : ω) : ω :=
  match sink with
  | some sink => reaction.report sink fault world
  | none => world

/-- The effect of one emission; none if an observer has to wait. Packets of streams that
nobody observes are dropped, faults are reported in any case, and an observer's error
becomes a fault of its stream. -/
def emit (reaction : Reaction η φ ω) (observers : StreamMap η) (sink : Option φ)
    (emission : Emission) (world : ω) : Option ω :=
  match emission with
  | .fault fault => some (reaction.reportTo sink fault world)
  | .packet stream packet =>
      match observers.find? stream with
      | none => some world
      | some observer =>
          (reaction.deliver stream observer packet world).map fun (answer, after) =>
            match answer with
            | .ok () => after
            | .error status =>
                reaction.reportTo sink ⟨some stream, some packet.timestamp, status⟩ after

def emitAll (reaction : Reaction η φ ω) (observers : StreamMap η) (sink : Option φ) :
    List Emission → ω → List Emission × ω
  | [], world => ([], world)
  | emission :: rest, world =>
      match reaction.emit observers sink emission world with
      | none => (emission :: rest, world)
      | some after => reaction.emitAll observers sink rest after

end Reaction

/-- A run at work: what is left of the frame begun last, and the accepted frames after it. -/
structure Worker (η φ : Type) where
  graph : Graph
  observers : StreamMap η
  sink : Option φ
  index : Nat := 0
  current : List Emission := []
  waiting : List StampedFrame := []

namespace Worker

variable {η φ ω : Type}

def isIdle (worker : Worker η φ) : Bool := worker.current.isEmpty && worker.waiting.isEmpty

def emissionTotal (graph : Graph) : Nat → List StampedFrame → Nat
  | _, [] => 0
  | index, input :: waiting =>
      (graph.emissions index input).length + emissionTotal graph (index + 1) waiting

def remaining (worker : Worker η φ) : Nat :=
  worker.current.length + emissionTotal worker.graph worker.index worker.waiting

/-- The work on a list of frames, as far as observers let it go: the emissions left over
of the frame in work, the index of the next frame and the frames not begun. -/
def workOff (reaction : Reaction η φ ω) (worker : Worker η φ) :
    List Emission → Nat → List StampedFrame → ω → (List Emission × Nat × List StampedFrame) × ω
  | current, index, [], world =>
      let (left, after) := reaction.emitAll worker.observers worker.sink current world
      ((left, index, []), after)
  | current, index, input :: waiting, world =>
      match reaction.emitAll worker.observers worker.sink current world with
      | ([], after) =>
          worker.workOff reaction (worker.graph.emissions index input) (index + 1) waiting after
      | (left, after) => ((left, index, input :: waiting), after)

def advance (reaction : Reaction η φ ω) (worker : Worker η φ) (world : ω) : Worker η φ × ω :=
  let ((current, index, waiting), after) :=
    worker.workOff reaction worker.current worker.index worker.waiting world
  ({ worker with current, index, waiting }, after)

end Worker

end FrameFlow
