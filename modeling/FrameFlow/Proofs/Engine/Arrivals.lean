import FrameFlow.Proofs.Engine.Progress

/-!
Emissions on their way to a place in the world: what one of them brings there, and what a worker
still owes to all places.
-/

namespace FrameFlow

variable {η φ ω β : Type}

/-- An emission that takes effect brings its parcels to a place in the world. -/
structure Reaction.Brings (reaction : Reaction η φ ω) (observers : StreamMap η)
    (sink : Option φ) (stands : ω → Prop) (arrived : ω → List β)
    (parcels : Emission → List β) : Prop where
  emit : ∀ {emission world after}, stands world →
    reaction.emit observers sink emission world = some after →
    stands after ∧ arrived after = arrived world ++ parcels emission

/-- A worker that has come on has the same graph, the same observers and the same sink, and
counts the same frames. -/
structure Worker.Continues (before after : Worker η φ) : Prop where
  graph : after.graph = before.graph
  observers : after.observers = before.observers
  sink : after.sink = before.sink
  position : after.index + after.waiting.length = before.index + before.waiting.length

namespace ScriptedEngine

/-- What is left to be emitted for the frames that were accepted. -/
def owed (engine : ScriptedEngine η φ) : List Emission :=
  match engine.worker with
  | some worker => worker.owed
  | none => []

theorem owed_of_isIdle {worker : Worker η φ} (idle : worker.isIdle = true) : worker.owed = [] := by
  simp only [Worker.isIdle, Bool.and_eq_true, List.isEmpty_iff] at idle
  rw [Worker.owed, idle.1, idle.2]
  rfl

variable {reaction : Reaction η φ ω} {engine : ScriptedEngine η φ} {worker : Worker η φ}

theorem advance_works (found : engine.worker = some worker) (opened : engine.isInputOpen = true)
    (world : ω) : (engine.advance reaction world).1.worker.isSome = true := by
  simp [advance, found, opened]

end ScriptedEngine

end FrameFlow
