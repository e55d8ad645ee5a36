import FrameFlow.Engine.Scripted

/-!
What a worker does while no observer has to wait: it emits everything it owes, in order.
So it makes no difference to what is delivered how often, and when, the worker was run.
-/

namespace FrameFlow

variable {η φ ω : Type}

def Graph.emissionsFrom (graph : Graph) : Nat → List StampedFrame → List Emission
  | _, [] => []
  | index, input :: waiting =>
      graph.emissions index input ++ graph.emissionsFrom (index + 1) waiting

theorem Graph.emissionsFrom_append (graph : Graph) (index : Nat)
    (before after : List StampedFrame) :
    graph.emissionsFrom index (before ++ after) =
      graph.emissionsFrom index before ++
        graph.emissionsFrom (index + before.length) after := by
  induction before generalizing index with
  | nil => rfl
  | cons input rest ih =>
      have position : index + 1 + rest.length = index + (input :: rest).length := by
        rw [List.length_cons]
        omega
      simp only [List.cons_append, emissionsFrom, ih, position, List.append_assoc]

namespace Reaction

variable {reaction : Reaction η φ ω} {observers : StreamMap η} {sink : Option φ}

def IsPrompt (reaction : Reaction η φ ω) : Prop :=
  ∀ stream observer packet world, (reaction.deliver stream observer packet world).isSome

def emitted (reaction : Reaction η φ ω) (observers : StreamMap η) (sink : Option φ)
    (world : ω) (emission : Emission) : ω :=
  (reaction.emit observers sink emission world).getD world

theorem IsPrompt.emit_eq (prompt : reaction.IsPrompt) (emission : Emission) (world : ω) :
    reaction.emit observers sink emission world =
      some (reaction.emitted observers sink world emission) := by
  cases taken : reaction.emit observers sink emission world with
  | some after => simp only [emitted, taken, Option.getD_some]
  | none =>
      cases emission with
      | fault fault => simp [emit] at taken
      | packet stream packet =>
          cases found : observers.find? stream with
          | none => simp [emit, found] at taken
          | some observer =>
              have waits : reaction.deliver stream observer packet world = none := by
                simpa [emit, found] using taken
              have answered := prompt stream observer packet world
              rw [waits] at answered
              contradiction

theorem IsPrompt.emitAll_eq (prompt : reaction.IsPrompt) (emissions : List Emission)
    (world : ω) :
    reaction.emitAll observers sink emissions world =
      ([], emissions.foldl (reaction.emitted observers sink) world) := by
  induction emissions generalizing world with
  | nil => rfl
  | cons emission rest ih =>
      simp only [emitAll, prompt.emit_eq, ih, List.foldl_cons]

end Reaction

namespace Worker

variable {reaction : Reaction η φ ω}

def owed (worker : Worker η φ) : List Emission :=
  worker.current ++ worker.graph.emissionsFrom worker.index worker.waiting

theorem workOff_of_prompt (prompt : reaction.IsPrompt) (worker : Worker η φ)
    (current : List Emission) (index : Nat) (waiting : List StampedFrame) (world : ω) :
    worker.workOff reaction current index waiting world =
      (([], index + waiting.length, []),
        (current ++ worker.graph.emissionsFrom index waiting).foldl
          (reaction.emitted worker.observers worker.sink) world) := by
  -- A frame that is taken up brings emissions and a world of its own.
  induction waiting generalizing current index world with
  | nil => simp [workOff, prompt.emitAll_eq, Graph.emissionsFrom]
  | cons input rest ih =>
      have position : index + 1 + rest.length = index + (input :: rest).length := by
        rw [List.length_cons]
        omega
      simp only [workOff, prompt.emitAll_eq, ih, position, Graph.emissionsFrom,
        List.foldl_append]

def rested (worker : Worker η φ) : Worker η φ :=
  { worker with
    current := []
    index := worker.index + worker.waiting.length
    waiting := [] }

theorem advance_of_prompt (prompt : reaction.IsPrompt) (worker : Worker η φ) (world : ω) :
    worker.advance reaction world =
      (worker.rested,
        worker.owed.foldl (reaction.emitted worker.observers worker.sink) world) := by
  simp only [advance, workOff_of_prompt prompt, owed, rested]

def enqueue (worker : Worker η φ) (input : StampedFrame) : Worker η φ :=
  { worker with waiting := worker.waiting ++ [input] }

/-- What a worker owes grows, with a frame that joins the waiting ones, by what the script
has for the frame's place in the run. -/
theorem owed_enqueue (worker : Worker η φ) (input : StampedFrame) :
    (worker.enqueue input).owed =
      worker.owed ++
        worker.graph.emissions (worker.index + worker.waiting.length) input := by
  simp [enqueue, owed, Graph.emissionsFrom_append, Graph.emissionsFrom]

end Worker

namespace ScriptedEngine

theorem advance_eq (reaction : Reaction η φ ω) (engine : ScriptedEngine η φ) (world : ω) :
    (engine.advance reaction world).1 =
      { engine with worker := (engine.advance reaction world).1.worker } := by
  cases found : engine.worker with
  | none => simp only [advance, found]; rw [← found]
  | some worker =>
      simp only [advance, found]
      split <;> rfl

/-- A worker has its own graph, so another one may be loaded meanwhile. -/
theorem advance_withGraph (reaction : Reaction η φ ω) (engine : ScriptedEngine η φ) (world : ω)
    (graph : Option Graph) :
    advance reaction { engine with graph } world =
      (engine.advance reaction world).map (fun after => { after with graph }) id := by
  have opened : ∀ worker, isInputOpen { engine with graph, worker } = engine.isInputOpen :=
    fun _ => rfl
  cases found : engine.worker with
  | none => simp only [advance, found, Prod.map, id]
  | some worker =>
      simp only [advance, found, opened]
      split <;> rfl

theorem advance_run (reaction : Reaction η φ ω) (engine : ScriptedEngine η φ) (world : ω) :
    (engine.advance reaction world).1.run = engine.run := by
  rw [advance_eq]

/-- An engine whose observers do not wait has a worker left only while frames may come. -/
theorem advance_of_prompt {reaction : Reaction η φ ω}
    (prompt : reaction.IsPrompt) {engine : ScriptedEngine η φ} {worker : Worker η φ}
    (found : engine.worker = some worker) (world : ω) :
    engine.advance reaction world =
      ({ engine with worker := if engine.isInputOpen then some worker.rested else none },
        worker.owed.foldl (reaction.emitted worker.observers worker.sink) world) := by
  have idle : worker.rested.isIdle = true := rfl
  cases opened : engine.isInputOpen <;>
    simp [advance, found, worker.advance_of_prompt prompt, idle, opened]

end ScriptedEngine

end FrameFlow
