import FrameFlow.Proofs.Engine.Progress

/-!
When the calls of an engine are carried out, and what each of them then changes.
-/

namespace FrameFlow

inductive Call (η : Type) where
  | load (text : String)
  | observe (stream : String) (observer : η)
  | start
  | addPacket (stream : String) (input : StampedFrame)
  | closeInput (stream : String)
  | waitUntilDone
  | cancel

def Call.frames : Call η → List StampedFrame
  | .addPacket _ input => [input]
  | _ => []

def Run.accept (run : Run) (timestamp : Timestamp) : Run :=
  { run with lastTimestamp := some timestamp }

/-- A timestamp follows whatever a run accepted last. -/
def Run.Precedes (run : Run) (timestamp : Timestamp) : Prop :=
  ∀ previous, run.lastTimestamp = some previous → previous < timestamp

namespace ScriptedEngine

variable {η φ ω : Type} {engine after : ScriptedEngine η φ} {stream : String}

def perform (engine : ScriptedEngine η φ) : Call η → Except EngineRefusal (ScriptedEngine η φ)
  | .load text => engine.load text
  | .observe stream observer => engine.observe stream observer
  | .start => engine.start
  | .addPacket stream input => engine.addPacket stream input
  | .closeInput stream => engine.closeInput stream
  | .waitUntilDone => engine.waitUntilDone
  | .cancel => .ok engine.cancel

theorem load_eq_ok_iff {text : String} :
    engine.load text = .ok after ↔
      engine.run = none ∧ ∃ graph, Graph.parse text = .ok graph ∧
        after = { engine with graph := some graph, observers := .empty } := by
  cases running : engine.run with
  | some run => simp [load, isRunning, running]
  | none =>
      cases parsed : Graph.parse text with
      | error violation => simp [load, isRunning, running, parsed]
      | ok graph =>
          simp only [load, isRunning, running, parsed]
          simp only [Option.isSome_none, Bool.false_eq_true, if_false, Except.ok.injEq,
            true_and, exists_eq_left']
          exact eq_comm

theorem observe_eq_ok_iff {observer : η} :
    engine.observe stream observer = .ok after ↔
      engine.run = none ∧ ∃ graph, engine.graph = some graph ∧
        graph.isObservable stream = true ∧
        after = { engine with observers := engine.observers.insert stream observer } := by
  cases running : engine.run with
  | some run => simp [observe, isRunning, running]
  | none =>
      cases loaded : engine.graph with
      | none => simp [observe, isRunning, running, loaded]
      | some graph =>
          by_cases observable : graph.isObservable stream = true
          · simp only [observe, isRunning, running, loaded, observable]
            simp only [Option.isSome_none, Bool.false_eq_true, if_false, if_true,
              Except.ok.injEq, Option.some.injEq, true_and, exists_eq_left', observable]
            exact eq_comm
          · simp [observe, isRunning, running, loaded, observable]

/-- A run begins with the observers and the sink that the engine has, at the first frame of
the script. -/
theorem start_eq_ok_iff :
    engine.start = .ok after ↔
      engine.run = none ∧ ∃ graph, engine.graph = some graph ∧
        after = { engine with
          observers := .empty
          run := some {}
          worker := some { graph, observers := engine.observers, sink := engine.sink } } := by
  cases running : engine.run with
  | some run => simp [start, isRunning, running]
  | none =>
      cases loaded : engine.graph with
      | none => simp [start, isRunning, running, loaded]
      | some graph =>
          simp only [start, isRunning, running, loaded]
          simp only [Option.isSome_none, Bool.false_eq_true, if_false, Except.ok.injEq,
            Option.some.injEq, true_and, exists_eq_left']
          exact eq_comm

theorem runOn_eq_ok_iff {run : Run} :
    engine.runOn stream = .ok run ↔
      ∃ graph, engine.graph = some graph ∧ stream = graph.inputStream ∧
        engine.run = some run := by
  cases loaded : engine.graph with
  | none => simp [runOn, loaded]
  | some graph =>
      by_cases named : stream = graph.inputStream
      · cases running : engine.run <;> simp [runOn, loaded, named, running]
      · simp [runOn, loaded, named]

def accept (engine : ScriptedEngine η φ) (run : Run) (input : StampedFrame) :
    ScriptedEngine η φ :=
  { engine with
    run := some (run.accept input.timestamp)
    worker := engine.worker.map (·.enqueue input) }

theorem addPacket_of_precedes {run : Run} {input : StampedFrame}
    (found : engine.runOn stream = .ok run) (opened : run.inputOpen = true)
    (next : run.Precedes input.timestamp) :
    engine.addPacket stream input = .ok (engine.accept run input) := by
  cases last : run.lastTimestamp with
  | none =>
      simp only [addPacket, found, opened, last, if_true, accept, Run.accept, Worker.enqueue]
  | some previous =>
      have later : ¬ input.timestamp ≤ previous := by
        have := Timestamp.lt_def.mp (next previous last)
        rw [Timestamp.le_def]
        omega
      simp only [addPacket, found, opened, last, if_true, if_neg later, accept, Run.accept,
        Worker.enqueue]

theorem addPacket_of_not_precedes {run : Run} {input : StampedFrame}
    (found : engine.runOn stream = .ok run) (opened : run.inputOpen = true)
    (stale : ¬ run.Precedes input.timestamp) :
    ∃ previous, run.lastTimestamp = some previous ∧
      engine.addPacket stream input = .error (.notAfter input.timestamp previous) := by
  cases last : run.lastTimestamp with
  | none => exact absurd (fun previous found => by simp [last] at found) stale
  | some previous =>
      have late : input.timestamp ≤ previous := by
        rw [Timestamp.le_def]
        refine Int.not_lt.mp fun next => stale fun other found => ?_
        rw [last, Option.some.injEq] at found
        exact found ▸ Timestamp.lt_def.mpr next
      exact ⟨previous, rfl, by simp only [addPacket, found, opened, last, if_true, if_pos late]⟩

theorem addPacket_eq_ok_iff {input : StampedFrame} :
    engine.addPacket stream input = .ok after ↔
      ∃ run, engine.runOn stream = .ok run ∧ run.inputOpen = true ∧
        run.Precedes input.timestamp ∧ after = engine.accept run input := by
  constructor
  · intro accepted
    cases found : engine.runOn stream with
    | error refusal => simp [addPacket, found] at accepted
    | ok run =>
        cases opened : run.inputOpen with
        | false => simp [addPacket, found, opened] at accepted
        | true =>
            by_cases next : run.Precedes input.timestamp
            · rw [addPacket_of_precedes found opened next, Except.ok.injEq] at accepted
              exact ⟨run, rfl, opened, next, accepted.symm⟩
            · obtain ⟨_, _, refused⟩ := addPacket_of_not_precedes found opened next
              rw [refused] at accepted
              contradiction
  · rintro ⟨run, found, opened, next, rfl⟩
    exact addPacket_of_precedes found opened next

theorem closeInput_eq_ok_iff :
    engine.closeInput stream = .ok after ↔
      ∃ run, engine.runOn stream = .ok run ∧
        after = { engine with run := some { run with inputOpen := false } } := by
  cases found : engine.runOn stream with
  | error refusal => simp [closeInput, found]
  | ok run =>
      simp only [closeInput, found, Except.ok.injEq, exists_eq_left']
      exact eq_comm

theorem waitUntilDone_eq_ok_iff :
    engine.waitUntilDone = .ok after ↔
      (∀ run, engine.run = some run → run.inputOpen = false) ∧
        after = { engine with run := none } := by
  cases running : engine.run with
  | none =>
      have same : { engine with run := none } = engine := by
        rw [← running]
      simp only [waitUntilDone, running, same, Except.ok.injEq, reduceCtorEq, false_implies,
        implies_true, true_and]
      exact eq_comm
  | some run =>
      cases opened : run.inputOpen with
      | true => simp [waitUntilDone, running, opened]
      | false =>
          simp only [waitUntilDone, running, opened, Bool.false_eq_true, if_false,
            Except.ok.injEq, Option.some.injEq, forall_eq', true_and]
          exact eq_comm

theorem cancel_run : engine.cancel.run = none := by
  cases running : engine.run <;> simp [cancel, running]

end ScriptedEngine

end FrameFlow
