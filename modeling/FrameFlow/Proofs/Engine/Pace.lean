import FrameFlow.Proofs.Engine.Arrivals
import Mathlib.Logic.Relation

/-!
The single steps of a worker: a frame is begun, an emission takes effect, or the worker ends.
A worker that is run goes through such steps as far as it can, so others may act on the world
between any two of them.
-/

namespace FrameFlow

variable {η φ ω β : Type}

namespace Worker

/-- The first waiting frame is in work. -/
def begin (worker : Worker η φ) (input : StampedFrame) (rest : List StampedFrame) :
    Worker η φ :=
  { worker with
    current := worker.graph.emissions worker.index input
    index := worker.index + 1
    waiting := rest }

theorem owed_begin {worker : Worker η φ} {input : StampedFrame} {rest : List StampedFrame}
    (rested : worker.current = []) (waiting : worker.waiting = input :: rest) :
    (worker.begin input rest).owed = worker.owed := by
  simp only [owed, begin, rested, waiting, Graph.emissionsFrom, List.nil_append]

/-- What a worker has still to do is given apart from its graph, its observers and its sink. -/
theorem workOff_of_same {reaction : Reaction η φ ω} {worker other : Worker η φ}
    (graph : other.graph = worker.graph) (observers : other.observers = worker.observers)
    (sink : other.sink = worker.sink) (current : List Emission) (index : Nat)
    (waiting : List StampedFrame) (world : ω) :
    other.workOff reaction current index waiting world =
      worker.workOff reaction current index waiting world := by
  induction waiting generalizing current index world with
  | nil => simp only [workOff, observers, sink]
  | cons input rest ih => simp only [workOff, observers, sink, graph, ih]

/-- A step of a worker that leaves the same to do leads to the same rest. -/
theorem advance_of_workOff {reaction : Reaction η φ ω} {worker other : Worker η φ}
    (graph : other.graph = worker.graph) (observers : other.observers = worker.observers)
    (sink : other.sink = worker.sink) {world after : ω}
    (same : worker.workOff reaction other.current other.index other.waiting after =
      worker.workOff reaction worker.current worker.index worker.waiting world) :
    other.advance reaction after = worker.advance reaction world := by
  rw [advance, workOff_of_same graph observers sink, same, advance, graph, observers, sink]

end Worker

namespace ScriptedEngine

inductive WorkerStep (reaction : Reaction η φ ω) :
    ScriptedEngine η φ × ω → ScriptedEngine η φ × ω → Prop
  | begins {engine world worker input rest} :
      engine.worker = some worker → worker.current = [] → worker.waiting = input :: rest →
      WorkerStep reaction (engine, world)
        ({ engine with worker := some (worker.begin input rest) }, world)
  | emits {engine world worker emission rest after} :
      engine.worker = some worker → worker.current = emission :: rest →
      reaction.emit worker.observers worker.sink emission world = some after →
      WorkerStep reaction (engine, world)
        ({ engine with worker := some { worker with current := rest } }, after)
  | ends {engine world worker} :
      engine.worker = some worker → worker.isIdle = true → engine.isInputOpen = false →
      WorkerStep reaction (engine, world) ({ engine with worker := none }, world)

variable {reaction : Reaction η φ ω} {engine : ScriptedEngine η φ} {worker : Worker η φ}
  {before after : ScriptedEngine η φ × ω} {world : ω}

theorem WorkerStep.exists_worker (step : WorkerStep reaction before after) :
    ∃ worker, before.1.worker = some worker := by
  cases step <;> exact ⟨_, ‹_›⟩

theorem WorkerStep.engine_eq (step : WorkerStep reaction before after) :
    after.1 = { before.1 with worker := after.1.worker } := by
  cases step <;> rfl

/-- Running the engine on comes to the same before and after a step. -/
theorem WorkerStep.advance_eq (step : WorkerStep reaction before after) :
    after.1.advance reaction after.2 = before.1.advance reaction before.2 := by
  cases step with
  | @begins engine world worker input rest found rested waiting =>
      have same : (worker.begin input rest).advance reaction world =
          worker.advance reaction world := by
        refine Worker.advance_of_workOff (by rfl) (by rfl) (by rfl) ?_
        rw [rested, waiting]
        rfl
      simp only [advance, found, same]
      rfl
  | @emits engine world worker emission rest middle found current emitted =>
      have same : Worker.advance reaction { worker with current := rest } middle =
          worker.advance reaction world := by
        refine Worker.advance_of_workOff (by rfl) (by rfl) (by rfl) ?_
        cases waiting : worker.waiting with
        | nil => simp only [current, Worker.workOff, Reaction.emitAll, emitted]
        | cons input others => simp only [current, Worker.workOff, Reaction.emitAll, emitted]
      simp only [advance, found, same]
      rfl
  | @ends engine world worker found idled closed =>
      have nothing := idled
      simp only [Worker.isIdle, Bool.and_eq_true, List.isEmpty_iff] at nothing
      simp [advance, found, Worker.advance, nothing, Worker.workOff, Reaction.emitAll, closed,
        Worker.isIdle]

/-- A bound for the steps that a worker has ahead of it. -/
def stepsLeft (engine : ScriptedEngine η φ) : Nat :=
  match engine.worker with
  | some worker => worker.remaining + worker.waiting.length + 1
  | none => 0

theorem WorkerStep.stepsLeft_lt (step : WorkerStep reaction before after) :
    after.1.stepsLeft < before.1.stepsLeft := by
  cases step with
  | begins found rested waiting =>
      simp only [stepsLeft, found, Worker.remaining, Worker.begin, rested, waiting,
        Worker.emissionTotal, List.length_cons, List.length_nil]
      omega
  | emits found current emitted =>
      simp only [stepsLeft, found, Worker.remaining, current, List.length_cons]
      omega
  | ends found idled closed =>
      simp only [stepsLeft, found]
      omega

/-- A worker that cannot make a step is as far as it gets. -/
theorem advance_of_no_step (stuck : ∀ after, ¬ WorkerStep reaction (engine, world) after) :
    engine.advance reaction world = (engine, world) := by
  cases found : engine.worker with
  | none => simp only [advance, found]
  | some worker =>
      have same : { engine with worker := some worker } = engine := by rw [← found]
      cases current : worker.current with
      | cons emission rest =>
          have waits : reaction.emit worker.observers worker.sink emission world = none :=
            Option.eq_none_iff_forall_ne_some.mpr fun after emitted =>
              stuck _ (.emits found current emitted)
          have kept : worker.advance reaction world = (worker, world) := by
            cases waiting : worker.waiting <;>
              simp only [Worker.advance, current, waiting, Worker.workOff, Reaction.emitAll,
                waits] <;> rw [← current, ← waiting]
          have busy : worker.isIdle = false := by simp [Worker.isIdle, current]
          simp [advance, found, kept, busy, same]
      | nil =>
          cases waiting : worker.waiting with
          | cons input rest => exact absurd (.begins found current waiting) (stuck _)
          | nil =>
              have idled : worker.isIdle = true := by simp [Worker.isIdle, current, waiting]
              have opened : engine.isInputOpen = true :=
                Bool.of_not_eq_false fun closed => stuck _ (.ends found idled closed)
              have kept : worker.advance reaction world = (worker, world) := by
                simp only [Worker.advance, current, waiting, Worker.workOff, Reaction.emitAll]
                rw [← current, ← waiting]
              simp [advance, found, kept, opened, same]

/-- Running an engine on is making the steps of its worker, one after the other. -/
theorem steps_advance (reaction : Reaction η φ ω) (engine : ScriptedEngine η φ) (world : ω) :
    Relation.ReflTransGen (WorkerStep reaction) (engine, world)
      (engine.advance reaction world) := by
  induction left : engine.stepsLeft using Nat.strongRecOn generalizing engine world with
  | ind number ih =>
      by_cases moves : ∃ after, WorkerStep reaction (engine, world) after
      · obtain ⟨after, step⟩ := moves
        have rest := ih _ (left ▸ step.stepsLeft_lt) after.1 after.2 rfl
        rw [step.advance_eq] at rest
        exact .head step rest
      · rw [advance_of_no_step (not_exists.mp moves)]

/-- What has arrived and what is still owed are the same together after every step. -/
theorem WorkerStep.brings {stands : ω → Prop} {arrived : ω → List β}
    {parcels : Emission → List β} (step : WorkerStep reaction before after)
    (found : before.1.worker = some worker)
    (brings : reaction.Brings worker.observers worker.sink stands arrived parcels)
    (standing : stands before.2) :
    stands after.2 ∧
      arrived after.2 ++ after.1.owed.flatMap parcels =
        arrived before.2 ++ before.1.owed.flatMap parcels ∧
      ∀ left, after.1.worker = some left → worker.Continues left := by
  cases step with
  | begins known rested waiting =>
      cases found.symm.trans known
      refine ⟨standing, ?_, ?_⟩
      · simp only [owed, known, Worker.owed_begin rested waiting]
      · rintro _ ⟨⟩
        refine ⟨rfl, rfl, rfl, ?_⟩
        simp only [Worker.begin, waiting, List.length_cons]
        omega
  | emits known current emitted =>
      cases found.symm.trans known
      obtain ⟨still, brought⟩ := brings.emit standing emitted
      refine ⟨still, ?_, ?_⟩
      · simp only [owed, known, Worker.owed, current, brought, List.cons_append,
          List.flatMap_cons, List.append_assoc]
      · rintro _ ⟨⟩
        exact ⟨rfl, rfl, rfl, rfl⟩
  | ends known idled closed =>
      cases found.symm.trans known
      refine ⟨standing, ?_, fun _ left => absurd left.symm (Option.some_ne_none _)⟩
      simp only [owed, known, owed_of_isIdle idled]

end ScriptedEngine

end FrameFlow
